import StagedRuns.Proofs.Dictionary
import StagedRuns.Proofs.Record.Kept
import StagedRuns.Proofs.Result

/-!
JSON that is read and written again. All of it is still there exactly if it has a certain form: its
records are objects that have no members but the known ones, nothing optional is null, and what is
not written when it is empty is not empty.
-/

namespace StagedRuns

open StagedRuns.RecordData (Form Fields)

namespace Json

mutual

/-- A value is still there in another one: with all its items and members at the same places, down to
the same scalars. The other one may have more members. -/
inductive HeldBy : Json → Json → Prop where
  | null : HeldBy .null .null
  | bool (value : Bool) : HeldBy (.bool value) (.bool value)
  | number (value : Numeral) : HeldBy (.number value) (.number value)
  | string (value : String) : HeldBy (.string value) (.string value)
  | array {items others : List Json} (each : List.Forall₂ HeldBy items others) :
      HeldBy (.array items) (.array others)
  | object {members others : List (String × Json)} (each : MembersHeldBy members others) :
      HeldBy (.object members) (.object others)

inductive MembersHeldBy : List (String × Json) → List (String × Json) → Prop where
  | nil {others : List (String × Json)} : MembersHeldBy [] others
  | cons {key : String} {value other : Json} {members others : List (String × Json)}
      (present : (key, other) ∈ others) (held : HeldBy value other)
      (rest : MembersHeldBy members others) : MembersHeldBy ((key, value) :: members) others

end

/-- Every member of an object has one with its key in another object, and they are as `Held` has it
for the key. -/
def ObjectHeld (Held : String → Json → Json → Prop) : Json → Json → Prop
  | .object members, .object others =>
      ∀ member ∈ members, ∃ other ∈ others, other.1 = member.1 ∧ Held member.1 member.2 other.2
  | _, _ => False

/-- `HeldBy`, but `Other` for one key. -/
def heldUnless (key : String) (Other : Json → Json → Prop) (name : String) : Json → Json → Prop :=
  if name = key then Other else HeldBy

variable {α : Type} {value : Json} {members others : List (String × Json)} {items jsons : List Json}

theorem membersHeldBy_iff :
    MembersHeldBy members others ↔
      ∀ member ∈ members, ∃ other ∈ others, other.1 = member.1 ∧ HeldBy member.2 other.2 := by
  induction members with
  | nil => exact ⟨fun _ => nofun, fun _ => .nil⟩
  | cons head tail ih =>
      rw [List.forall_mem_cons, ← ih]
      constructor
      · intro held
        cases held with
        | cons present held rest => exact ⟨⟨_, present, rfl, held⟩, rest⟩
      · rintro ⟨⟨⟨key, other⟩, present, same, held⟩, rest⟩
        cases same
        exact .cons present held rest

theorem heldBy_string_iff {content : String} :
    HeldBy value (.string content) ↔ value = .string content := by
  constructor
  · intro held
    cases held
    rfl
  · rintro rfl
    exact .string content

theorem heldBy_array_iff : HeldBy (.array items) (.array jsons) ↔ List.Forall₂ HeldBy items jsons := by
  constructor
  · intro held
    cases held with
    | array each => exact each
  · exact .array

theorem heldBy_object_iff :
    HeldBy value (.object others) ↔ ObjectHeld (fun _ => HeldBy) value (.object others) := by
  constructor
  · intro held
    cases held with
    | object each => exact membersHeldBy_iff.mp each
  · intro held
    cases value with
    | object members => exact .object (membersHeldBy_iff.mpr held)
    | null | bool | number | string | illegible | array => cases held

def IsText (value : Json) : Prop :=
  ∃ content, value = .string content

def IsFilledText (value : Json) : Prop :=
  ∃ content, value = .string content ∧ content ≠ ""

def IsList (form : Form Json) (value : Json) : Prop :=
  ∃ items, value = .array items ∧ ∀ item ∈ items, form item

def IsFilledList (form : Form Json) (value : Json) : Prop :=
  ∃ items, value = .array items ∧ (∀ item ∈ items, form item) ∧ items ≠ []

/-- An object whose keys are among the names of the fields, and whose values have their forms. -/
def IsRecord (fields : Fields Json) (value : Json) : Prop :=
  ∃ members, value = .object members ∧
    ∀ member ∈ members, ∃ field ∈ fields, member.1 = field.1 ∧ field.2 member.2

/-- An object of texts in which no key that matters has two values. -/
def IsDictionary (Matters : String → Prop) (value : Json) : Prop :=
  ∃ members, value = .object members ∧ (∀ member ∈ members, IsText member.2) ∧
    ∀ member ∈ members, ∀ other ∈ members, member.1 = other.1 → Matters member.1 →
      member.2 = other.2

namespace IsRecord

variable {fields : Fields Json} {key : String}

theorem nil : IsRecord fields (.object []) :=
  ⟨[], rfl, List.forall_mem_nil _⟩

theorem cons {form : Form Json} (field : (key, form) ∈ fields) (fits : form value)
    (rest : IsRecord fields (.object members)) :
    IsRecord fields (.object ((key, value) :: members)) := by
  obtain ⟨others, isObject, each⟩ := rest
  cases isObject
  refine ⟨_, rfl, ?_⟩
  rw [List.forall_mem_cons]
  exact ⟨⟨_, field, rfl, fits⟩, each⟩

theorem member (record : IsRecord fields (.object members)) (present : (key, value) ∈ members) :
    ∃ form, (key, form) ∈ fields ∧ form value := by
  obtain ⟨others, isObject, each⟩ := record
  cases isObject
  obtain ⟨⟨name, form⟩, inFields, same, fits⟩ := each _ present
  cases (same : key = name)
  exact ⟨form, inFields, fits⟩

end IsRecord

theorem asString?_eq_some {content : String} :
    value.asString? = some content ↔ value = .string content := by
  cases value <;> simp [asString?]

theorem listOf_eq_some {decode : Json → Option α} {values : List α}
    (read : listOf decode value = some values) :
    ∃ items, value = .array items ∧
      List.Forall₂ (fun item value => decode item = some value) items values := by
  obtain ⟨items, isArray, each⟩ := Option.bind_eq_some_iff.mp read
  cases value with
  | array given =>
      cases isArray
      exact ⟨items, rfl, Result.mapM_eq_some.mp each⟩
  | null | bool | number | string | illegible | object => cases isArray

theorem nullable_eq_some {decode : Json → Option α} {result : Option α}
    (read : nullable decode value = some result) :
    (value = .null ∧ result = none) ∨ ∃ found, result = some found ∧ decode value = some found := by
  unfold nullable at read
  split at read
  · cases read
    exact .inl ⟨rfl, rfl⟩
  · obtain ⟨found, decoded, same⟩ := Option.map_eq_some_iff.mp read
    exact .inr ⟨found, same.symm, decoded⟩

theorem repeatsKey_eq_false_iff :
    repeatsKey members = false ↔ (members.map (·.1)).Nodup := by
  induction members with
  | nil => exact iff_of_true rfl List.nodup_nil
  | cons head tail ih =>
      rw [repeatsKey, Bool.or_eq_false_iff, List.any_eq_false, List.map_cons, List.nodup_cons, ih]
      refine and_congr_left fun _ => ?_
      simp only [decide_eq_true_eq, List.mem_map, not_exists, not_and]

/-- The fields of a record are the members of the object that have their names. -/
theorem find?_of_record? {names : List String} {record : Record Json}
    (read : record? names (.object members) = some record) {member : String × Json}
    (present : member ∈ members) (known : member.1 ∈ names) :
    record.find? member.1 = some member.2 := by
  unfold record? at read
  dsimp only at read
  split at read
  · cases read
  · rename_i distinct
    cases read
    refine (lookup_eq_some_iff (repeatsKey_eq_false_iff.mp (Bool.eq_false_iff.mpr distinct))).mpr ?_
    exact List.mem_filter.mpr ⟨present, List.contains_iff_mem.mpr known⟩

/-- A record of known fields is still there in what was written of them exactly if each field is. -/
theorem objectHeld_record_iff {Held : String → Json → Json → Prop} {Nothing : Json → Prop}
    {names : List String} {record : Record Json} (read : record? names value = some record)
    {fields : Fields Json} (kept : FieldsKept Held Nothing record fields members)
    (same : fields.map (·.1) = names) :
    ObjectHeld Held value (.object members) ↔ IsRecord fields value := by
  cases value with
  | null | bool | number | string | illegible | array => exact iff_of_false id nofun
  | object given =>
      have known : ∀ field ∈ fields, field.1 ∈ names := fun field inFields =>
        same ▸ List.mem_map_of_mem inFields
      constructor
      · intro held
        refine ⟨given, rfl, ?_⟩
        intro member present
        obtain ⟨other, inMembers, named, heldThere⟩ := held member present
        obtain ⟨field, inFields, part, fieldKept, inPart⟩ := kept.of_member inMembers
        -- every part has the name of its field only, so this is the field of the member
        have name : member.1 = field.1 := named.symm.trans (fieldKept.named other inPart)
        have found := find?_of_record? read present (name ▸ known field inFields)
        rw [name] at found heldThere
        exact ⟨field, inFields, name,
          (fieldKept.given member.2 found).mp ⟨other, inPart, heldThere⟩⟩
      · rintro ⟨others, isObject, each⟩ member present
        cases isObject
        obtain ⟨field, inFields, name, fits⟩ := each member present
        obtain ⟨part, fieldKept, within⟩ := kept.of_field inFields
        have found := find?_of_record? read present (name ▸ known field inFields)
        rw [name] at found
        obtain ⟨other, inPart, held⟩ := (fieldKept.given member.2 found).mpr fits
        rw [name]
        exact ⟨other, within other inPart, fieldKept.named other inPart, held⟩

def keeping : Keeping Json Option where
  Reads := fun computation result => computation = some result
  reads_bind := Option.bind_eq_some_iff.mp
  reads_pure := Option.some.inj
  reads_missing := nofun
  Says := HeldBy
  Nothing := fun _ => True
  IsText := IsText
  IsFilledText := IsFilledText
  IsList := IsList
  IsFilledList := IsFilledList
  IsRecord := IsRecord
  nothing_text := trivial
  nothing_list := trivial
  nothing_record := fun _ => trivial
  text_iff := by
    intro value content read
    cases asString?_eq_some.mp read
    simp [heldBy_string_iff, IsText, IsFilledText]
  list_iff := by
    intro α decode encode form keeps value values read
    obtain ⟨items, rfl, each⟩ := listOf_eq_some read
    have occupied : items ≠ [] ↔ values ≠ [] := by
      rw [← List.length_pos_iff, ← List.length_pos_iff, each.length_eq]
    have held : List.Forall₂ HeldBy items (values.map encode) ↔ ∀ item ∈ items, form item := by
      clear read occupied
      induction each with
      | nil => exact ⟨fun _ => nofun, fun _ => .nil⟩
      | cons headRead _ ih =>
          rw [List.map_cons, List.forall₂_cons, List.forall_mem_cons, ih, keeps _ _ headRead]
    simp [heldBy_array_iff, IsList, IsFilledList, held, occupied]
  nullable_iff := by
    intro α decode encode fields keeps value result read
    rcases nullable_eq_some read with ⟨rfl, rfl⟩ | ⟨found, rfl, decoded⟩
    · simp [IsRecord]
    · simp [← keeps value found decoded]
  record_iff := by
    intro names value record read fields members kept same
    rw [heldBy_object_iff]
    exact objectHeld_record_iff read kept same

theorem dictionaryOf_eq_some {dictionary : Dictionary String}
    (read : dictionaryOf asString? value = some dictionary) :
    ∃ bindings : List (String × String),
      value = .object (bindings.map fun binding => (binding.1, .string binding.2)) ∧
        dictionary = .ofList bindings := by
  cases value with
  | null | bool | number | string | illegible | array => cases read
  | object members =>
      obtain ⟨bindings, each, same⟩ := Option.bind_eq_some_iff.mp read
      cases same
      refine ⟨bindings, ?_, rfl⟩
      have pairs := Result.mapM_eq_some.mp each
      clear read each
      congr 1
      induction pairs with
      | nil => rfl
      | cons headRead _ ih =>
          obtain ⟨content, isText, same⟩ := Option.map_eq_some_iff.mp headRead
          cases same
          rw [List.map_cons, ← ih, ← asString?_eq_some.mp isText]

theorem isDictionary_iff {Matters : String → Prop} {bindings : List (String × String)} :
    IsDictionary Matters (.object (bindings.map fun binding => (binding.1, .string binding.2))) ↔
      ∀ binding ∈ bindings, Matters binding.1 →
        (Dictionary.ofList bindings).get? binding.1 = some binding.2 := by
  constructor
  · rintro ⟨members, isObject, -, agree⟩ binding bound matters
    cases isObject
    obtain ⟨content, found⟩ := Dictionary.exists_get?_ofList bound
    have other := Dictionary.mem_of_get?_ofList found
    have same := agree _ (List.mem_map_of_mem bound) _ (List.mem_map_of_mem other) rfl matters
    cases same
    exact found
  · intro kept
    refine ⟨_, rfl, ?_, ?_⟩
    · intro member present
      obtain ⟨binding, _, rfl⟩ := List.mem_map.mp present
      exact ⟨_, rfl⟩
    · intro member present other otherPresent same matters
      obtain ⟨binding, bound, rfl⟩ := List.mem_map.mp present
      obtain ⟨another, otherBound, rfl⟩ := List.mem_map.mp otherPresent
      have found := kept binding bound matters
      have otherFound := kept another otherBound (same ▸ matters)
      dsimp only at same
      rw [same] at found
      exact congrArg Json.string (Option.some.inj (found.symm.trans otherFound))

/-- A dictionary is still there in one with the same values for the keys that matter exactly if no
such key was given two values. -/
theorem objectHeld_dictionary_iff {Matters : String → Prop} {dictionary written : Dictionary String}
    (read : dictionaryOf asString? value = some dictionary)
    (kept : ∀ key, Matters key → written.get? key = dictionary.get? key)
    (present : ∀ key, ¬ Matters key → ∃ content, written.get? key = some content) :
    ObjectHeld (fun key value other => Matters key → HeldBy value other) value
        (ofDictionary .string written) ↔ IsDictionary Matters value := by
  obtain ⟨bindings, rfl, rfl⟩ := dictionaryOf_eq_some read
  rw [isDictionary_iff]
  constructor
  · intro held binding bound matters
    obtain ⟨other, inOthers, named, same⟩ := held _ (List.mem_map_of_mem bound)
    obtain ⟨entry, inWritten, rfl⟩ := List.mem_map.mp inOthers
    have content : binding.2 = entry.2 := Json.string.inj (heldBy_string_iff.mp (same matters))
    rw [← kept _ matters, ← Dictionary.mem_toList, content]
    exact named ▸ inWritten
  · intro found member inMembers
    obtain ⟨binding, bound, rfl⟩ := List.mem_map.mp inMembers
    by_cases matters : Matters binding.1
    · have inWritten := (kept _ matters).trans (found binding bound matters)
      refine ⟨(binding.1, .string binding.2),
        List.mem_map_of_mem (Dictionary.mem_toList.mpr inWritten), rfl, fun _ => .string _⟩
    · obtain ⟨content, inWritten⟩ := present binding.1 matters
      exact ⟨(binding.1, .string content),
        List.mem_map_of_mem (Dictionary.mem_toList.mpr inWritten), rfl,
        fun again => absurd again matters⟩

theorem keeps_dictionary :
    keeping.Keeps (dictionaryOf asString?) (ofDictionary .string) (IsDictionary fun _ => True) := by
  intro value dictionary read
  have held : ObjectHeld (fun _ value other => True → HeldBy value other) value
        (ofDictionary .string dictionary) ↔ IsDictionary (fun _ => True) value :=
    objectHeld_dictionary_iff read (fun _ _ => rfl) (fun _ no => absurd trivial no)
  rw [← held]
  refine heldBy_object_iff.trans ?_
  simp only [true_imp_iff]
  rfl

end Json

namespace FieldKept

open StagedRuns.Json

variable {Other : Json → Json → Prop} {Nothing : Json → Prop} {record : Record Json}
  {key name : String} {form : Form Json} {part : List (String × Json)}

theorem ifText {content : Option String}
    (read : record.withDefault name none (nullable asString?) = some content) :
    Json.keeping.Field record name IsText (Json.ifPresent name .string content) := by
  have reads : Json.keeping.Reads (record.withDefault name none (nullable asString?)) content :=
    read
  refine withDefault (Json.ifPresent name .string) ?_ ?_ ?_ reads
  · cases content <;> simp [Json.ifPresent]
  · intro value valueRead
    rcases nullable_eq_some valueRead with ⟨rfl, rfl⟩ | ⟨found, rfl, decoded⟩
    · simp [Json.ifPresent, IsText]
    · cases asString?_eq_some.mp decoded
      simp [Json.ifPresent, IsText, Json.keeping, heldBy_string_iff]
  · simp [Json.ifPresent]

theorem here (kept : FieldKept Other Nothing record key form part) :
    FieldKept (heldUnless key Other key) Nothing record key form part := by
  rwa [heldUnless, if_pos rfl]

theorem elsewhere (different : name ≠ key)
    (kept : FieldKept HeldBy Nothing record name form part) :
    FieldKept (heldUnless key Other name) Nothing record name form part := by
  rwa [heldUnless, if_neg different]

end FieldKept

end StagedRuns
