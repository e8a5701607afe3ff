import StagedRuns.Dictionary

/-!
Records in any form of data. A type is read by one definition from each form that says what a text,
a list, a dictionary and the fields of a record are in it.
-/

namespace StagedRuns

structure Record (Data : Type) where
  /-- Whether the fields were given by their places in a list. -/
  byPlace : Bool
  fields : List (String × Data)

/-- A form of data that records can be read from, in computations of `m`. -/
class RecordData (Data : Type) (m : outParam (Type → Type)) where
  text : Data → m String
  list : {α : Type} → (Data → m α) → Data → m (List α)
  dictionary : {α : Type} → (Data → m α) → Data → m (Dictionary α)
  nullable : {α : Type} → (Data → m α) → Data → m (Option α)
  record : List String → Data → m (Record Data)
  missing : {α : Type} → String → m α

namespace Record

variable {Data α : Type} {m : Type → Type} [RecordData Data m]

def find? (record : Record Data) (name : String) : Option Data :=
  record.fields.lookup name

def required (record : Record Data) (name : String) (read : Data → m α) : m α :=
  match record.find? name with
  | some data => read data
  | none => RecordData.missing Data name

def withDefault [Monad m] (record : Record Data) (name : String) (default : α)
    (read : Data → m α) : m α :=
  match record.find? name with
  | some data => read data
  | none => pure default

end Record

end StagedRuns
