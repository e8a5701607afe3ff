import Mathlib.Data.List.Perm.Basic
import StagedRuns.Proofs.Dictionary
import StagedRuns.Proofs.Json.Kept
import StagedRuns.Proofs.Json.Written

/-!
Decoders that read back what an encoder writes, whatever order the members of the objects are
written in. A decoder of records does so if it reads each field back from the member that was
written of it, or from there being none.
-/

namespace StagedRuns

namespace Json

/-! ### The order of members -/

mutual

/-- A value is another one, but for the order of the members of its objects. -/
inductive Arranged : Json → Json → Prop where
  | null : Arranged .null .null
  | bool (value : Bool) : Arranged (.bool value) (.bool value)
  | number (value : Numeral) : Arranged (.number value) (.number value)
  | string (value : String) : Arranged (.string value) (.string value)
  | illegible : Arranged .illegible .illegible
  | array {items others : List Json} (each : List.Forall₂ Arranged items others) :
      Arranged (.array items) (.array others)
  | object {members others arranged : List (String × Json)}
      (each : MembersArranged members others) (order : others.Perm arranged) :
      Arranged (.object members) (.object arranged)

inductive MembersArranged : List (String × Json) → List (String × Json) → Prop where
  | nil : MembersArranged [] []
  | cons {key : String} {value other : Json} {members others : List (String × Json)}
      (head : Arranged value other) (tail : MembersArranged members others) :
      MembersArranged ((key, value) :: members) ((key, other) :: others)

end

mutual

/-- A value with the members of its objects in the order of their keys. -/
def sorted : Json → Json
  | .array items => .array (sortedItems items)
  | .object members =>
      .object ((sortedMembers members).mergeSort fun member other => member.1 ≤ other.1)
  | .null => .null
  | .bool value => .bool value
  | .number value => .number value
  | .string value => .string value
  | .illegible => .illegible

def sortedItems : List Json → List Json
  | [] => []
  | item :: items => sorted item :: sortedItems items

def sortedMembers : List (String × Json) → List (String × Json)
  | [] => []
  | (key, value) :: members => (key, sorted value) :: sortedMembers members

end

mutual

theorem arranged_sorted : (value : Json) → Arranged value value.sorted
  | .null => .null
  | .bool value => .bool value
  | .number value => .number value
  | .string value => .string value
  | .illegible => .illegible
  | .array items => .array (arranged_sortedItems items)
  | .object members =>
      .object (arranged_sortedMembers members) (List.mergeSort_perm _ _).symm

theorem arranged_sortedItems : (items : List Json) →
    List.Forall₂ Arranged items (sortedItems items)
  | [] => .nil
  | item :: items => .cons (arranged_sorted item) (arranged_sortedItems items)

theorem arranged_sortedMembers : (members : List (String × Json)) →
    MembersArranged members (sortedMembers members)
  | [] => .nil
  | (_, value) :: members => .cons (arranged_sorted value) (arranged_sortedMembers members)

end

mutual

theorem arranged_refl : (value : Json) → Arranged value value
  | .null => .null
  | .bool value => .bool value
  | .number value => .number value
  | .string value => .string value
  | .illegible => .illegible
  | .array items => .array (itemsArranged_refl items)
  | .object members => .object (membersArranged_refl members) (List.Perm.refl _)

theorem itemsArranged_refl : (items : List Json) → List.Forall₂ Arranged items items
  | [] => .nil
  | item :: items => .cons (arranged_refl item) (itemsArranged_refl items)

theorem membersArranged_refl : (members : List (String × Json)) →
    MembersArranged members members
  | [] => .nil
  | (_, value) :: members => .cons (arranged_refl value) (membersArranged_refl members)

end

theorem membersLegible_iff {members : List (String × Json)} :
    MembersLegible members ↔ ∀ member ∈ members, Legible member.2 := by
  induction members with
  | nil => exact iff_of_true trivial nofun
  | cons head tail ih =>
      rw [List.forall_mem_cons, ← ih]
      rfl

mutual

theorem Arranged.legible : {value other : Json} → Arranged value other → Legible value →
    Legible other
  | .null, _, .null, _ | .bool _, _, .bool _, _ | .string _, _, .string _, _ => trivial
  | .number _, _, .number _, digits => digits
  | .array _, _, .array each, items => itemsLegible_of_arranged each items
  | .object _, _, .object each order, members => by
      have legible := membersLegible_iff.mp (membersLegible_of_arranged each members)
      refine membersLegible_iff.mpr ?_
      intro member present
      exact legible member (order.mem_iff.mpr present)

theorem itemsLegible_of_arranged : {items others : List Json} →
    List.Forall₂ Arranged items others → ItemsLegible items → ItemsLegible others
  | [], _, .nil, _ => trivial
  | _ :: _, _, .cons head tail, legible =>
      ⟨head.legible legible.1, itemsLegible_of_arranged tail legible.2⟩

theorem membersLegible_of_arranged : {members others : List (String × Json)} →
    MembersArranged members others → MembersLegible members → MembersLegible others
  | [], _, .nil, _ => trivial
  | (_, _) :: _, _, .cons head tail, legible =>
      ⟨head.legible legible.1, membersLegible_of_arranged tail legible.2⟩

end

/-! ### Codecs -/

/-- A decoder reads back what an encoder writes, also after the members of objects were put in
another order. -/
structure Codec {α : Type} (decode : Json → Option α) (encode : α → Json) : Prop where
  legible : ∀ value, Legible (encode value)
  decoded : ∀ value json, Arranged (encode value) json → decode json = some value

variable {α : Type} {decode : Json → Option α} {encode : α → Json}

theorem Codec.read (codec : Codec decode encode) {value : α} {json : Json}
    (arranged : Arranged (encode value) json) : (read json.bytes >>= decode) = some value := by
  rw [read_bytes (arranged.legible (codec.legible value))]
  exact codec.decoded value json arranged

theorem Codec.text : Codec asString? .string where
  legible := fun _ => trivial
  decoded := by
    intro content json arranged
    cases arranged
    rfl

theorem itemsLegible_map (legible : ∀ value, Legible (encode value)) (values : List α) :
    ItemsLegible (values.map encode) := by
  induction values with
  | nil => trivial
  | cons head tail ih => exact ⟨legible head, ih⟩

theorem Codec.list (codec : Codec decode encode) :
    Codec (listOf decode) fun values => .array (values.map encode) where
  legible := itemsLegible_map codec.legible
  decoded := by
    intro values json arranged
    cases arranged with
    | array each =>
        refine Result.mapM_eq_some.mpr ?_
        refine ((List.forall₂_map_left_iff.mp each).imp ?_).flip
        exact codec.decoded

/-! ### Dictionaries -/

theorem decoded_of_membersArranged (codec : Codec decode encode) {entries : List (String × α)}
    {members : List (String × Json)}
    (each : MembersArranged (entries.map fun entry => (entry.1, encode entry.2)) members) :
    List.Forall₂
      (fun (member : String × Json) entry =>
        ((decode member.2).map fun value => (member.1, value)) = some entry) members entries := by
  induction entries generalizing members with
  | nil =>
      cases each
      exact .nil
  | cons head tail ih =>
      cases each with
      | cons headArranged rest =>
          refine .cons ?_ (ih rest)
          rw [codec.decoded _ _ headArranged]
          rfl

theorem Codec.dictionary (codec : Codec decode encode) :
    Codec (dictionaryOf decode) (ofDictionary encode) where
  legible := by
    intro dictionary
    refine membersLegible_iff.mpr ?_
    intro member present
    obtain ⟨entry, _, rfl⟩ := List.mem_map.mp present
    exact codec.legible entry.2
  decoded := by
    intro dictionary json arranged
    cases arranged with
    | object each order =>
        have decoded := decoded_of_membersArranged codec each
        obtain ⟨bindings, read, same⟩ := List.perm_comp_forall₂ order.symm decoded
        refine Option.bind_eq_some_iff.mpr ⟨bindings, Result.mapM_eq_some.mpr read, ?_⟩
        exact congrArg some (Dictionary.ofList_of_perm same.symm)

/-! ### Records -/

theorem MembersArranged.keys_eq {members others : List (String × Json)}
    (each : MembersArranged members others) : others.map (·.1) = members.map (·.1) := by
  induction members generalizing others with
  | nil =>
      cases each
      rfl
  | cons head tail ih =>
      cases each with
      | cons _ rest => rw [List.map_cons, List.map_cons, ih rest]

theorem MembersArranged.lookup {members others : List (String × Json)}
    (each : MembersArranged members others) (key : String) :
    Option.Rel Arranged (members.lookup key) (others.lookup key) := by
  induction members generalizing others with
  | nil =>
      cases each
      exact .none
  | cons head tail ih =>
      cases each with
      | cons headArranged rest =>
          rw [lookup_cons_eq, lookup_cons_eq]
          split
          · exact .some headArranged
          · exact ih rest

/-- An object whose members are fields of a record is one, with the fields that were written. -/
theorem record?_arranged {names : List String} (distinct : names.Nodup)
    {members : List (String × Json)} (known : (members.map (·.1)).Sublist names) {json : Json}
    (arranged : Arranged (.object members) json) :
    ∃ record, record? names json = some record ∧
      ∀ name, Option.Rel Arranged (members.lookup name) (record.find? name) := by
  cases arranged with
  | @object _ others arranged each order =>
      have keys : (others.map (·.1)).Sublist names := each.keys_eq ▸ known
      have othersDistinct := distinct.sublist keys
      have arrangedDistinct := (order.map (·.1)).nodup_iff.mp othersDistinct
      have all : (arranged.filter fun member => names.contains member.1) = arranged := by
        refine List.filter_eq_self.mpr ?_
        intro member present
        have inOthers := order.mem_iff.mpr present
        exact List.contains_iff_mem.mpr (keys.subset (List.mem_map_of_mem inOthers))
      refine ⟨⟨false, arranged⟩, ?_, ?_⟩
      · unfold record?
        dsimp only
        rw [all, repeatsKey_eq_false_iff.mpr arrangedDistinct]
        rfl
      · intro name
        have found := lookup_of_perm othersDistinct order name
        unfold Record.find?
        dsimp only
        rw [found]
        exact each.lookup name

/-- The members of an object were written of fields with these names, so that a record with the same
fields reads as `Reads` has it. -/
structure Parts (names : List String) (members : List (String × Json))
    (Reads : Record Json → Prop) : Prop where
  known : (members.map (·.1)).Sublist names
  legible : MembersLegible members
  reads : names.Nodup → ∀ record : Record Json,
    (∀ name ∈ names, Option.Rel Arranged (members.lookup name) (record.find? name)) →
      Reads record

theorem Codec.record {names : List String} {read : Record Json → Option α}
    {members : α → List (String × Json)} {Reads : α → Record Json → Prop}
    (distinct : names.Nodup) (written : ∀ value, encode value = .object (members value))
    (parts : ∀ value, Parts names (members value) (Reads value))
    (reads : ∀ value record, Reads value record → read record = some value) :
    Codec (fun json => record? names json >>= read) encode where
  legible := fun value => written value ▸ (parts value).legible
  decoded := by
    intro value json arranged
    rw [written] at arranged
    obtain ⟨record, isRecord, found⟩ := record?_arranged distinct (parts value).known arranged
    have fields := (parts value).reads distinct record fun name _ => found name
    exact Option.bind_eq_some_iff.mpr ⟨record, isRecord, reads value record fields⟩

namespace Parts

variable {name : String} {names : List String} {members : List (String × Json)}
  {Reads Others : Record Json → Prop}

theorem nil : Parts [] [] fun _ => True :=
  ⟨.slnil, trivial, fun _ _ _ => trivial⟩

theorem imp (parts : Parts names members Reads)
    (implies : ∀ record, Reads record → Others record) : Parts names members Others where
  known := parts.known
  legible := parts.legible
  reads := fun distinct record found => implies record (parts.reads distinct record found)

theorem given {json : Json} (legible : Legible json)
    (reads : ∀ record : Record Json, ∀ found, Arranged json found →
      record.find? name = some found → Reads record)
    (others : Parts names members Others) :
    Parts (name :: names) ((name, json) :: members) fun record => Reads record ∧ Others record where
  known := others.known.cons_cons name
  legible := ⟨legible, others.legible⟩
  reads := by
    intro distinct record found
    rw [List.nodup_cons] at distinct
    rw [List.forall_mem_cons, lookup_cons_eq, if_pos rfl] at found
    obtain ⟨here, elsewhere⟩ := found
    refine ⟨?_, others.reads distinct.2 record ?_⟩
    · generalize isFound : record.find? name = field at here
      cases here with
      | some arranged => exact reads record _ arranged isFound
    · intro other inNames
      have different : other ≠ name := fun same => distinct.1 (same ▸ inNames)
      have there := elsewhere other inNames
      rwa [lookup_cons_eq, if_neg different] at there

theorem omitted (reads : ∀ record : Record Json, record.find? name = none → Reads record)
    (others : Parts names members Others) :
    Parts (name :: names) members fun record => Reads record ∧ Others record where
  known := others.known.cons name
  legible := others.legible
  reads := by
    intro distinct record found
    rw [List.nodup_cons] at distinct
    rw [List.forall_mem_cons] at found
    have absent : members.lookup name = none := by
      refine List.lookup_eq_none_iff.mpr ?_
      intro member present
      have different : name ≠ member.1 := fun same =>
        distinct.1 (same ▸ others.known.subset (List.mem_map_of_mem present))
      simpa using different
    rw [absent] at found
    obtain ⟨here, elsewhere⟩ := found
    refine ⟨?_, others.reads distinct.2 record elsewhere⟩
    generalize isFound : record.find? name = field at here
    cases here
    exact reads record isFound

variable {default : α}

theorem required (codec : Codec decode encode) (value : α)
    (others : Parts names members Others) :
    Parts (name :: names) ((name, encode value) :: members) fun record =>
      record.required name decode = some value ∧ Others record := by
  refine given (codec.legible value) ?_ others
  intro record found arranged isFound
  unfold Record.required
  rw [isFound]
  exact codec.decoded value found arranged

theorem withDefault_of_found {record : Record Json} {found : Json} {value : α}
    (isFound : record.find? name = some found) (read : decode found = some value) :
    record.withDefault name default decode = some value := by
  unfold Record.withDefault
  rw [isFound]
  exact read

theorem withDefault_of_none {record : Record Json} (isFound : record.find? name = none) :
    record.withDefault name default decode = some default := by
  unfold Record.withDefault
  rw [isFound]
  rfl

theorem always (codec : Codec decode encode) (value : α) (others : Parts names members Others) :
    Parts (name :: names) ((name, encode value) :: members) fun record =>
      (∀ default, record.withDefault name default decode = some value) ∧ Others record := by
  refine given (codec.legible value) ?_ others
  intro record found arranged isFound default
  exact withDefault_of_found isFound (codec.decoded value found arranged)

theorem unlessBlank (content : String) (others : Parts names members Others) :
    Parts (name :: names) (Json.unlessBlank name content ++ members) fun record =>
      record.withDefault name "" asString? = some content ∧ Others record := by
  unfold Json.unlessBlank
  split
  · rename_i blank
    exact omitted (fun record isFound => blank ▸ withDefault_of_none isFound) others
  · exact (always .text content others).imp fun _ read => ⟨read.1 "", read.2⟩

theorem unlessEmpty (codec : Codec decode encode) (values : List α)
    (others : Parts names members Others) :
    Parts (name :: names) (Json.unlessEmpty name encode values ++ members) fun record =>
      record.withDefault name [] (listOf decode) = some values ∧ Others record := by
  cases values with
  | nil => exact omitted (fun record isFound => withDefault_of_none isFound) others
  | cons first rest =>
      exact (always codec.list (first :: rest) others).imp fun _ read => ⟨read.1 [], read.2⟩

end Parts

theorem nullable_of_some {json : Json} {value : α} (notNull : decode .null = none)
    (read : decode json = some value) : nullable decode json = some (some value) := by
  cases json with
  | null => cases notNull.symm.trans read
  | bool | number | string | illegible | array | object => exact congrArg (Option.map some) read

theorem Parts.ifPresent {name : String} {names : List String} {members : List (String × Json)}
    {Others : Record Json → Prop} (codec : Codec decode encode) (notNull : decode .null = none)
    (value : Option α) (others : Parts names members Others) :
    Parts (name :: names) (Json.ifPresent name encode value ++ members) fun record =>
      record.withDefault name none (nullable decode) = some value ∧ Others record := by
  cases value with
  | none => exact omitted (fun record isFound => withDefault_of_none isFound) others
  | some value =>
      refine given (codec.legible value) ?_ others
      intro record found arranged isFound
      exact withDefault_of_found isFound
        (nullable_of_some notNull (codec.decoded value found arranged))

end Json

end StagedRuns
