import StagedRuns.Expr.Value
import StagedRuns.Json.Record
import StagedRuns.Proofs.Record.Kept
import StagedRuns.Proofs.Yaml.Reading
import StagedRuns.Yaml.Value.OfDocument

/-!
Nodes written as JSON. What is read from a node and written again says all that the node says
exactly if the node has a certain form: its texts are texts by themselves, its records have no
fields but the known ones, and what is not written when it is empty is not empty.
-/

namespace StagedRuns

inductive Json.IsEmpty : Json → Prop where
  | text : IsEmpty (.string "")
  | list : IsEmpty (.array [])
  | record {members : List (String × Json)} (each : ∀ member ∈ members, IsEmpty member.2) :
      IsEmpty (.object members)

namespace Yaml

inductive Value.IsJson : Value → Json → Prop where
  | null : IsJson .null .null
  | bool (value : Bool) : IsJson (.bool value) (.bool value)
  | string (content : String) : IsJson (.string content) (.string content)
  | natural (value : Nat) : IsJson (.number (.integer value)) (.number ⟨false, value, [], none⟩)
  | negative (value : Nat) : IsJson (.number (.integer (-value))) (.number ⟨true, value, [], none⟩)
  | binary (numeral : Json.Numeral) :
      IsJson (.number (.binary (Expr.Value.ofNumeral numeral))) (.number numeral)

/-- A tag that does not set a collection apart from one without a tag. -/
def Tag.Neutral (tag : Option Tag) : Prop :=
  tag.bind Tag.ownName? = none

abbrev Form : Type := Node → Prop

abbrev Fields : Type := List (String × Form)

namespace Document

/-- A node is a text by itself, without being asked for one. -/
def Spells (document : Document) (node : Node) (content : String) : Prop :=
  ∃ tag plain, document.StandsFor node (.scalar tag plain content) ∧
    Value.ofScalar tag plain content = .ok (.string content)

mutual

/-- A JSON value holds every key and value of a node at the same place, and beyond them only
members without content. -/
inductive Written (document : Document) : Node → Json → Prop where
  | scalar {node : Node} {tag : Option Tag} {plain : Bool} {content : String} {value : Value}
      {json : Json} (stands : document.StandsFor node (.scalar tag plain content))
      (valued : Value.ofScalar tag plain content = .ok value) (same : value.IsJson json) :
      Written document node json
  | sequence {node : Node} {tag : Option Tag} {items : List Node} {jsons : List Json}
      (stands : document.StandsFor node (.sequence tag items)) (neutral : Tag.Neutral tag)
      (each : List.Forall₂ (Written document) items jsons) :
      Written document node (.array jsons)
  | mapping {node : Node} {tag : Option Tag} {entries : List (Node × Node)}
      {members : List (String × Json)}
      (stands : document.StandsFor node (.mapping tag entries)) (neutral : Tag.Neutral tag)
      (each : EntriesWritten document entries members)
      (added : ∀ member ∈ members,
        (∃ entry ∈ entries, document.Spells entry.1 member.1) ∨ member.2.IsEmpty) :
      Written document node (.object members)

inductive EntriesWritten (document : Document) :
    List (Node × Node) → List (String × Json) → Prop where
  | nil {members : List (String × Json)} : EntriesWritten document [] members
  | cons {key value : Node} {entries : List (Node × Node)} {name : String} {json : Json}
      {members : List (String × Json)} (spells : document.Spells key name)
      (member : (name, json) ∈ members) (written : Written document value json)
      (rest : EntriesWritten document entries members) :
      EntriesWritten document ((key, value) :: entries) members

end

def IsText (document : Document) (node : Node) : Prop :=
  ∃ content, document.Spells node content

def IsFilledText (document : Document) (node : Node) : Prop :=
  ∃ content, document.Spells node content ∧ content ≠ ""

def IsList (document : Document) (form : Form) (node : Node) : Prop :=
  ∃ tag items, document.StandsFor node (.sequence tag items) ∧ Tag.Neutral tag ∧
    ∀ item ∈ items, form item

def IsFilledList (document : Document) (form : Form) (node : Node) : Prop :=
  ∃ tag items, document.StandsFor node (.sequence tag items) ∧ Tag.Neutral tag ∧
    (∀ item ∈ items, form item) ∧ items ≠ []

/-- A mapping whose keys are among the names of the fields, and whose values have their forms. -/
def IsRecord (document : Document) (fields : Fields) (node : Node) :
    Prop :=
  ∃ tag entries, document.StandsFor node (.mapping tag entries) ∧ Tag.Neutral tag ∧
    ∀ entry ∈ entries, ∃ field ∈ fields, document.Spells entry.1 field.1 ∧ field.2 entry.2

end Document

variable {α : Type} {document : Document}

theorem entriesWritten_iff {entries : List (Node × Node)} {members : List (String × Json)} :
    document.EntriesWritten entries members ↔
      ∀ entry ∈ entries, ∃ member ∈ members,
        document.Spells entry.1 member.1 ∧ document.Written entry.2 member.2 := by
  induction entries with
  | nil => exact ⟨fun _ => nofun, fun _ => .nil⟩
  | cons head tail ih =>
      rw [List.forall_mem_cons, ← ih]
      constructor
      · intro written
        cases written with
        | cons spells member written rest => exact ⟨⟨_, member, spells, written⟩, rest⟩
      · rintro ⟨⟨_, member, spells, written⟩, rest⟩
        exact .cons spells member written rest

theorem written_string_iff {node : Node} {content : String} :
    document.Written node (.string content) ↔
      ∃ tag plain other, document.StandsFor node (.scalar tag plain other) ∧
        Value.ofScalar tag plain other = .ok (.string content) := by
  constructor
  · intro written
    cases written with
    | scalar stands valued same =>
        cases same
        exact ⟨_, _, _, stands, valued⟩
  · rintro ⟨tag, plain, other, stands, valued⟩
    exact .scalar stands valued (.string content)

theorem written_array_iff {node : Node} {jsons : List Json} :
    document.Written node (.array jsons) ↔
      ∃ tag items, document.StandsFor node (.sequence tag items) ∧ Tag.Neutral tag ∧
        List.Forall₂ document.Written items jsons := by
  constructor
  · intro written
    cases written with
    | scalar _ _ same => cases same
    | sequence stands neutral each => exact ⟨_, _, stands, neutral, each⟩
  · rintro ⟨tag, items, stands, neutral, each⟩
    exact .sequence stands neutral each

theorem written_object_iff {node : Node} {members : List (String × Json)} :
    document.Written node (.object members) ↔
      ∃ tag entries, document.StandsFor node (.mapping tag entries) ∧ Tag.Neutral tag ∧
        document.EntriesWritten entries members ∧
        ∀ member ∈ members,
          (∃ entry ∈ entries, document.Spells entry.1 member.1) ∨ member.2.IsEmpty := by
  constructor
  · intro written
    cases written with
    | scalar _ _ same => cases same
    | mapping stands neutral each added => exact ⟨_, _, stands, neutral, each, added⟩
  · rintro ⟨tag, entries, stands, neutral, each, added⟩
    exact .mapping stands neutral each added

theorem written_of_standsFor {node next : Node} {json : Json}
    (stands : ∀ target, document.StandsFor node target → document.StandsFor next target)
    (written : document.Written node json) : document.Written next json := by
  cases written with
  | scalar found valued isJson => exact .scalar (stands _ found) valued isJson
  | sequence found neutral each => exact .sequence (stands _ found) neutral each
  | mapping found neutral each added => exact .mapping (stands _ found) neutral each added

/-- What a node says depends on what it stands for only. -/
theorem written_congr {node next : Node} {json : Json}
    (same : ∀ target, document.StandsFor node target ↔ document.StandsFor next target) :
    document.Written node json ↔ document.Written next json :=
  ⟨written_of_standsFor fun target => (same target).mp,
    written_of_standsFor fun target => (same target).mpr⟩

theorem isRecord_congr {node next : Node} {fields : Fields}
    (same : ∀ target, document.StandsFor node target ↔ document.StandsFor next target) :
    document.IsRecord fields node ↔ document.IsRecord fields next := by
  unfold Document.IsRecord
  simp only [same]

/-- What is read from a node and written again says what the node says exactly if the node has the
form. -/
def Document.Keeps (document : Document) (decode : Node → Following α) (encode : α → Json)
    (form : Form) : Prop :=
  ∀ node value, document.Reads (decode node) value →
    (document.Written node (encode value) ↔ form node)

theorem spells_unique {node : Node} {content other : String}
    (reads : document.Reads node.text content) (spells : document.Spells node other) :
    other = content := by
  obtain ⟨tag, plain, stands⟩ := reads_text reads
  obtain ⟨otherTag, otherPlain, otherStands, -⟩ := spells
  cases standsFor_unique stands otherStands
  rfl

theorem written_text_iff {node : Node} {content : String}
    (reads : document.Reads node.text content) :
    document.Written node (.string content) ↔ document.Spells node content := by
  obtain ⟨tag, plain, stands⟩ := reads_text reads
  simp [written_string_iff, Document.Spells, standsFor_iff stands]

theorem keeps_text : document.Keeps Node.text Json.string document.IsText := by
  intro node content reads
  rw [written_text_iff reads]
  constructor
  · exact fun spells => ⟨content, spells⟩
  · rintro ⟨other, spells⟩
    exact spells_unique reads spells ▸ spells

theorem isFilledText_iff {node : Node} {content : String}
    (reads : document.Reads node.text content) :
    document.IsFilledText node ↔ document.IsText node ∧ content ≠ "" := by
  constructor
  · rintro ⟨other, spells, filled⟩
    cases spells_unique reads spells
    exact ⟨⟨content, spells⟩, filled⟩
  · rintro ⟨⟨other, spells⟩, filled⟩
    cases spells_unique reads spells
    exact ⟨content, spells, filled⟩

section

variable {decode : Node → Following α} {encode : α → Json} {form : Form}

theorem written_items_iff (keeps : document.Keeps decode encode form) {items : List Node}
    {values : List α}
    (each : List.Forall₂ (fun item value => document.Reads (decode item) value) items values) :
    List.Forall₂ (fun item value => document.Written item (encode value)) items values ↔
      ∀ item ∈ items, form item := by
  induction each with
  | nil => exact ⟨fun _ => nofun, fun _ => .nil⟩
  | cons headReads _ ih =>
      rw [List.forall₂_cons, List.forall_mem_cons, ih, keeps _ _ headReads]

theorem written_list_iff (keeps : document.Keeps decode encode form) {node : Node}
    {values : List α} (reads : document.Reads (node.list decode) values) :
    (document.Written node (.array (values.map encode)) ↔ document.IsList form node) ∧
      (document.IsFilledList form node ↔ document.IsList form node ∧ values ≠ []) := by
  rcases reads_list reads with ⟨tag, items, stands, each⟩ | ⟨⟨tag, plain, content, stands⟩, -⟩
  · have occupied : items ≠ [] ↔ values ≠ [] := by
      rw [← List.length_pos_iff, ← List.length_pos_iff, each.length_eq]
    simp [written_array_iff, Document.IsList, Document.IsFilledList, standsFor_iff stands,
      written_items_iff keeps each, occupied, and_assoc]
  · simp [written_array_iff, Document.IsList, Document.IsFilledList, standsFor_iff stands]

end

theorem spells_names {entry : Node × Node} {name : String}
    (spells : document.Spells entry.1 name) : document.Names entry (name, entry.2) := by
  obtain ⟨tag, plain, stands, -⟩ := spells
  exact ⟨⟨tag, plain, stands⟩, rfl⟩

/-- A record of known fields is written as it was read exactly if each field is. -/
theorem written_record_iff {names : List String} {node : Node} {record : Record Node}
    (reads : document.Reads (node.record names) record) {fields : Fields}
    {members : List (String × Json)}
    (kept : FieldsKept (fun _ => document.Written) Json.IsEmpty record fields members)
    (same : fields.map (·.1) = names) :
    document.Written node (.object members) ↔ document.IsRecord fields node := by
  have known : ∀ field ∈ fields, field.1 ∈ names := fun field inFields =>
    same ▸ List.mem_map_of_mem inFields
  rw [written_object_iff]
  constructor
  · rintro ⟨tag, entries, stands, neutral, each, -⟩
    refine ⟨tag, entries, stands, neutral, ?_⟩
    intro entry present
    obtain ⟨member, inMembers, spells, written⟩ := entriesWritten_iff.mp each entry present
    obtain ⟨field, inFields, part, fieldKept, inPart⟩ := kept.of_member inMembers
    rw [fieldKept.named member inPart] at spells
    have found := (reads_record reads stands).1 entry present field.1 (known field inFields)
      (spells_names spells)
    exact ⟨field, inFields, spells, (fieldKept.given entry.2 found).mp ⟨member, inPart, written⟩⟩
  · rintro ⟨tag, entries, stands, neutral, each⟩
    refine ⟨tag, entries, stands, neutral, entriesWritten_iff.mpr ?_, ?_⟩
    · intro entry present
      obtain ⟨field, inFields, spells, fits⟩ := each entry present
      obtain ⟨part, fieldKept, within⟩ := kept.of_field inFields
      have found := (reads_record reads stands).1 entry present field.1 (known field inFields)
        (spells_names spells)
      obtain ⟨member, inPart, written⟩ := (fieldKept.given entry.2 found).mpr fits
      exact ⟨member, within member inPart, fieldKept.named member inPart ▸ spells, written⟩
    · intro member inMembers
      obtain ⟨field, inFields, part, fieldKept, inPart⟩ := kept.of_member inMembers
      cases found : record.find? field.1 with
      | none => exact .inr (fieldKept.missing found member inPart)
      | some value =>
          -- The key has the name, and it spells some name: these are the same.
          obtain ⟨entry, present, named⟩ := (reads_record reads stands).2 field.1 value found
          obtain ⟨other, -, spells, -⟩ := each entry present
          have names := congrArg Prod.fst (names_unique (spells_names spells) named)
          have memberNamed := fieldKept.named member inPart
          exact .inl ⟨entry, present, memberNamed.trans names.symm ▸ spells⟩

theorem written_nullable_iff {decode : Node → Following α} {encode : α → Json} {fields : Fields}
    (keeps : document.Keeps decode encode (document.IsRecord fields)) {node : Node}
    {value : Option α} (reads : document.Reads (node.nullable decode) value) :
    document.IsRecord fields node ↔
      ∃ given, value = some given ∧ document.Written node (encode given) := by
  rcases reads_nullable reads with
    ⟨⟨tag, plain, content, stands⟩, rfl⟩ | ⟨next, value, rfl, nextReads, same⟩
  · simp [Document.IsRecord, standsFor_iff stands]
  · simp only [Option.some.injEq, exists_eq_left']
    rw [written_congr same, isRecord_congr same]
    exact (keeps next value nextReads).symm

def Document.keeping (document : Document) : Keeping Node Following where
  Reads := document.Reads
  reads_bind := reads_bind
  reads_pure := reads_pure
  reads_missing := reads_throw
  Says := document.Written
  Nothing := Json.IsEmpty
  IsText := document.IsText
  IsFilledText := document.IsFilledText
  IsList := document.IsList
  IsFilledList := document.IsFilledList
  IsRecord := document.IsRecord
  nothing_text := .text
  nothing_list := .list
  nothing_record := .record
  text_iff := fun reads => ⟨keeps_text _ _ reads, isFilledText_iff reads⟩
  list_iff := fun keeps _ _ => written_list_iff keeps
  nullable_iff := fun keeps _ _ => written_nullable_iff keeps
  record_iff := fun reads _ _ => written_record_iff reads

end Yaml

end StagedRuns
