import StagedRuns.Json.Record

/-!
Data that are read and written again as JSON. What data have to be for the JSON value to say all that
they say is put together from what their texts, lists and records have to be, whatever form the data
are in.
-/

namespace StagedRuns

abbrev RecordData.Form (Data : Type) : Type := Data → Prop

abbrev RecordData.Fields (Data : Type) : Type := List (String × RecordData.Form Data)

open RecordData (Form Fields)

variable {Data α : Type} {m : Type → Type} [Monad m] [RecordData Data m]

/-- The results of the computations that read. -/
structure Reading (Data : Type) (m : Type → Type) [Monad m] [RecordData Data m] where
  Reads : {α : Type} → m α → α → Prop
  reads_bind : ∀ {α β : Type} {first : m α} {next : α → m β} {result : β},
    Reads (first >>= next) result → ∃ value, Reads first value ∧ Reads (next value) result
  reads_pure : ∀ {α : Type} {value result : α}, Reads (pure value) result → value = result
  reads_missing : ∀ {α : Type} {name : String} {result : α},
    ¬ Reads (RecordData.missing Data name) result

namespace Reading

/-- What is read from data and written again says what the data say exactly if these have the form. -/
def Keeps (reading : Reading Data m) (Says : Data → Json → Prop) (decode : Data → m α)
    (encode : α → Json) (form : Form Data) : Prop :=
  ∀ data value, reading.Reads (decode data) value → (Says data (encode value) ↔ form data)

end Reading

/-- How a field of a record was written: what was given says itself exactly if it has the form, and
what was not given is nothing. -/
structure FieldKept (Says : Data → Json → Prop) (Nothing : Json → Prop) (record : Record Data)
    (name : String) (form : Form Data) (part : List (String × Json)) : Prop where
  named : ∀ member ∈ part, member.1 = name
  given : ∀ data, record.find? name = some data →
    ((∃ member ∈ part, Says data member.2) ↔ form data)
  missing : record.find? name = none → ∀ member ∈ part, Nothing member.2

/-- How the fields of a record were written one after the other. -/
inductive FieldsKept (Says : String → Data → Json → Prop) (Nothing : Json → Prop)
    (record : Record Data) : Fields Data → List (String × Json) → Prop where
  | nil : FieldsKept Says Nothing record [] []
  | cons {name : String} {form : Form Data} {part members : List (String × Json)}
      {fields : Fields Data} (field : FieldKept (Says name) Nothing record name form part)
      (rest : FieldsKept Says Nothing record fields members) :
      FieldsKept Says Nothing record ((name, form) :: fields) (part ++ members)

section

variable {Says : String → Data → Json → Prop} {Nothing : Json → Prop} {record : Record Data}
  {fields : Fields Data} {members : List (String × Json)}

theorem FieldsKept.of_field (kept : FieldsKept Says Nothing record fields members)
    {field : String × Form Data} (present : field ∈ fields) :
    ∃ part, FieldKept (Says field.1) Nothing record field.1 field.2 part ∧
      ∀ member ∈ part, member ∈ members := by
  induction kept with
  | nil => cases present
  | cons head _ ih =>
      rcases List.mem_cons.mp present with rfl | inRest
      · exact ⟨_, head, fun _ => List.mem_append_left _⟩
      · obtain ⟨part, kept, within⟩ := ih inRest
        exact ⟨part, kept, fun member inPart => List.mem_append_right _ (within member inPart)⟩

theorem FieldsKept.of_member (kept : FieldsKept Says Nothing record fields members)
    {member : String × Json} (present : member ∈ members) :
    ∃ field ∈ fields, ∃ part,
      FieldKept (Says field.1) Nothing record field.1 field.2 part ∧ member ∈ part := by
  induction kept with
  | nil => cases present
  | cons head _ ih =>
      rcases List.mem_append.mp present with inPart | inRest
      · exact ⟨_, List.mem_cons_self, _, head, inPart⟩
      · obtain ⟨field, inFields, found⟩ := ih inRest
        exact ⟨field, List.mem_cons_of_mem _ inFields, found⟩

end

theorem exists_singleton_member {Says : Data → Json → Prop} {name : String} {data : Data}
    {json : Json} : (∃ member ∈ [(name, json)], Says data member.2) ↔ Says data json := by
  simp only [List.mem_singleton, exists_eq_left]

namespace FieldKept

variable {reading : Reading Data m} {Says : Data → Json → Prop} {Nothing : Json → Prop}
  {decode : Data → m α} {encode : α → Json} {form : Form Data} {record : Record Data}
  {name : String}

theorem required (keeps : reading.Keeps Says decode encode form) {value : α}
    (reads : reading.Reads (record.required name decode) value) :
    FieldKept Says Nothing record name form [(name, encode value)] := by
  unfold Record.required at reads
  split at reads
  · rename_i data found
    constructor
    · simp
    · intro other again
      cases found.symm.trans again
      rw [exists_singleton_member]
      exact keeps data value reads
    · intro missing
      cases found.symm.trans missing
  · exact absurd reads reading.reads_missing

theorem withDefault {value default : α} (part : α → List (String × Json))
    (named : ∀ member ∈ part value, member.1 = name)
    (given : ∀ data, reading.Reads (decode data) value →
      ((∃ member ∈ part value, Says data member.2) ↔ form data))
    (missing : ∀ member ∈ part default, Nothing member.2)
    (reads : reading.Reads (record.withDefault name default decode) value) :
    FieldKept Says Nothing record name form (part value) := by
  unfold Record.withDefault at reads
  split at reads
  · rename_i data found
    refine ⟨named, ?_, ?_⟩
    · intro other again
      cases found.symm.trans again
      exact given data reads
    · intro absent
      cases found.symm.trans absent
  · rename_i absent
    cases reading.reads_pure reads
    refine ⟨named, ?_, fun _ => missing⟩
    intro data found
    cases absent.symm.trans found

theorem always (keeps : reading.Keeps Says decode encode form) {value default : α}
    (reads : reading.Reads (record.withDefault name default decode) value)
    (nothing : Nothing (encode default)) :
    FieldKept Says Nothing record name form [(name, encode value)] := by
  refine withDefault (fun value => [(name, encode value)]) ?_ ?_ ?_ reads
  · simp
  · intro data valueReads
    rw [exists_singleton_member]
    exact keeps data value valueReads
  · simpa using nothing

end FieldKept

/-- What data of a form say, and what they have to be to be read and written again. -/
structure Keeping (Data : Type) (m : Type → Type) [Monad m] [RecordData Data m] extends
    Reading Data m where
  Says : Data → Json → Prop
  Nothing : Json → Prop
  IsText : Form Data
  IsFilledText : Form Data
  IsList : Form Data → Form Data
  IsFilledList : Form Data → Form Data
  IsRecord : Fields Data → Form Data
  nothing_text : Nothing (.string "")
  nothing_list : Nothing (.array [])
  nothing_record : ∀ {members : List (String × Json)},
    (∀ member ∈ members, Nothing member.2) → Nothing (.object members)
  text_iff : ∀ {data : Data} {content : String}, Reads (RecordData.text data) content →
    (Says data (.string content) ↔ IsText data) ∧
      (IsFilledText data ↔ IsText data ∧ content ≠ "")
  list_iff : ∀ {α : Type} {decode : Data → m α} {encode : α → Json} {form : Form Data},
    toReading.Keeps Says decode encode form → ∀ {data : Data} {values : List α},
      Reads (RecordData.list decode data) values →
        (Says data (.array (values.map encode)) ↔ IsList form data) ∧
          (IsFilledList form data ↔ IsList form data ∧ values ≠ [])
  nullable_iff : ∀ {α : Type} {decode : Data → m α} {encode : α → Json} {fields : Fields Data},
    toReading.Keeps Says decode encode (IsRecord fields) → ∀ {data : Data} {value : Option α},
      Reads (RecordData.nullable decode data) value →
        (IsRecord fields data ↔ ∃ given, value = some given ∧ Says data (encode given))
  record_iff : ∀ {names : List String} {data : Data} {record : Record Data},
    Reads (RecordData.record names data) record → ∀ {fields : Fields Data}
      {members : List (String × Json)},
      FieldsKept (fun _ => Says) Nothing record fields members → fields.map (·.1) = names →
        (Says data (.object members) ↔ IsRecord fields data)

namespace Keeping

variable (keeping : Keeping Data m)

abbrev Keeps : (Data → m α) → (α → Json) → Form Data → Prop :=
  keeping.toReading.Keeps keeping.Says

abbrev Field : Record Data → String → Form Data → List (String × Json) → Prop :=
  FieldKept keeping.Says keeping.Nothing

abbrev Record : Record Data → Fields Data → List (String × Json) → Prop :=
  FieldsKept (fun _ => keeping.Says) keeping.Nothing

end Keeping

section

variable {keeping : Keeping Data m} {decode : Data → m α} {encode : α → Json} {form : Form Data}
  {record : Record Data} {name : String}

theorem Reading.Keeps.text : keeping.Keeps RecordData.text Json.string keeping.IsText :=
  fun _ _ reads => (keeping.text_iff reads).1

theorem Reading.Keeps.list (keeps : keeping.Keeps decode encode form) :
    keeping.Keeps (RecordData.list decode) (fun values => .array (values.map encode))
      (keeping.IsList form) :=
  fun _ _ reads => (keeping.list_iff keeps reads).1

namespace FieldKept

theorem unlessBlank {content : String}
    (reads : keeping.Reads (record.withDefault name "" RecordData.text) content) :
    keeping.Field record name keeping.IsFilledText (Json.unlessBlank name content) := by
  refine withDefault (Json.unlessBlank name) ?_ ?_ ?_ reads
  · unfold Json.unlessBlank
    split <;> simp
  · intro data contentReads
    obtain ⟨whole, filled⟩ := keeping.text_iff contentReads
    rw [filled, ← whole]
    unfold Json.unlessBlank
    split <;> simp [*]
  · simp [Json.unlessBlank]

theorem unlessEmpty (keeps : keeping.Keeps decode encode form) {values : List α}
    (reads : keeping.Reads (record.withDefault name [] (RecordData.list decode)) values) :
    keeping.Field record name (keeping.IsFilledList form)
      (Json.unlessEmpty name encode values) := by
  refine withDefault (Json.unlessEmpty name encode) ?_ ?_ ?_ reads
  · cases values <;> simp [Json.unlessEmpty]
  · intro data valuesRead
    obtain ⟨whole, filled⟩ := keeping.list_iff keeps valuesRead
    rw [filled, ← whole]
    cases values <;> simp [Json.unlessEmpty]
  · simp [Json.unlessEmpty]

theorem ifPresent {fields : Fields Data}
    (keeps : keeping.Keeps decode encode (keeping.IsRecord fields)) {value : Option α}
    (reads : keeping.Reads (record.withDefault name none (RecordData.nullable decode)) value) :
    keeping.Field record name (keeping.IsRecord fields) (Json.ifPresent name encode value) := by
  refine withDefault (Json.ifPresent name encode) ?_ ?_ ?_ reads
  · cases value <;> simp [Json.ifPresent]
  · intro data valueReads
    rw [keeping.nullable_iff keeps valueReads]
    cases value <;> simp [Json.ifPresent]
  · simp [Json.ifPresent]

end FieldKept

end

end StagedRuns
