import StagedRuns.Json.Basic
import StagedRuns.Record

/-!
Records in JSON. A record is an object, in which unknown members are passed over and no known one
occurs twice, or an array of its fields in their order. A field that is missing has a default, is
optional or makes the value no record; an array leaves out fields only at its end, and none that
is optional without a default.
-/

namespace StagedRuns

namespace Json

def repeatsKey : List (String × Json) → Bool
  | [] => false
  | member :: rest => rest.any (·.1 = member.1) || repeatsKey rest

def record? (names : List String) : Json → Option (Record Json)
  | .object members =>
      let known := members.filter fun member => names.contains member.1
      if repeatsKey known then none else some ⟨false, known⟩
  | .array items =>
      if names.length < items.length then none else some ⟨true, names.zip items⟩
  | _ => none

def nullable {α : Type} (decode : Json → Option α) : Json → Option (Option α)
  | .null => some none
  | value => (decode value).map some

def listOf {α : Type} (decode : Json → Option α) (value : Json) : Option (List α) :=
  value.asArray? >>= fun items => items.mapM decode

def dictionaryOf {α : Type} (decode : Json → Option α) : Json → Option (Dictionary α)
  | .object members => do
      let bindings ← members.mapM fun (key, value) => (decode value).map fun value => (key, value)
      return Dictionary.ofList bindings
  | _ => none

instance : RecordData Json Option where
  text := Json.asString?
  list := listOf
  dictionary := dictionaryOf
  nullable := nullable
  record := record?
  missing := fun _ => none

end Json

namespace Record

variable {α : Type}

def optional (record : Record Json) (name : String) (decode : Json → Option α) :
    Option (Option α) :=
  match record.find? name with
  | some value => Json.nullable decode value
  | none => if record.byPlace then none else some none

def optionalWithDefault (record : Record Json) (name : String) (decode : Json → Option α) :
    Option (Option α) :=
  record.withDefault name none (Json.nullable decode)

end Record

namespace Json

def ofDictionary {α : Type} (encode : α → Json) (dictionary : Dictionary α) : Json :=
  .object (dictionary.toList.map fun (key, value) => (key, encode value))

def unlessEmpty {α : Type} (name : String) (encode : α → Json) : List α → List (String × Json)
  | [] => []
  | items => [(name, .array (items.map encode))]

def unlessBlank (name text : String) : List (String × Json) :=
  if text = "" then [] else [(name, .string text)]

def ifPresent {α : Type} (name : String) (encode : α → Json) : Option α → List (String × Json)
  | none => []
  | some value => [(name, encode value)]

end Json

end StagedRuns
