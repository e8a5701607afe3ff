import StagedRuns.Proofs.Json.Scalar
import StagedRuns.Proofs.Text.Utf8

/-!
A value is read back from the bytes that are written of it.
-/

namespace StagedRuns.Json

/-! ### What can be written -/

mutual

/-- Whether a value can be read from what is written of it: nothing in it is illegible, and the
fractions of its numbers are made of digits. -/
def Legible : Json → Prop
  | .null | .bool _ | .string _ => True
  | .number numeral => ∀ c ∈ numeral.fraction, c.isDigit
  | .illegible => False
  | .array items => ItemsLegible items
  | .object members => MembersLegible members

def ItemsLegible : List Json → Prop
  | [] => True
  | item :: items => Legible item ∧ ItemsLegible items

def MembersLegible : List (String × Json) → Prop
  | [] => True
  | (_, value) :: members => Legible value ∧ MembersLegible members

end

theorem length_writeText (text after : List Char) :
    after.length ≤ (writeText text after).length := by
  induction text with
  | nil => exact Nat.le_refl _
  | cons c rest ih =>
      unfold writeText at ih ⊢
      rw [List.foldr_cons, List.length_append]
      omega

theorem length_writeString (text : String) (after : List Char) :
    after.length + 2 ≤ (writeString text after).length := by
  have written := length_writeText text.toList ('"' :: after)
  rw [List.length_cons] at written
  rw [writeString, List.length_cons]
  omega

theorem length_writeNumeral (numeral : Numeral) (after : List Char) :
    after.length < (writeNumeral numeral after).length := by
  have digits := Nat.length_toDigits_pos (n := numeral.whole) (b := 10)
  have exponent : after.length ≤ (writeExponent numeral.exponent after).length := by
    cases numeral.exponent with
    | none => exact Nat.le_refl _
    | some power =>
        simp only [writeExponent, List.length_cons, List.length_append]
        omega
  have fraction : (writeExponent numeral.exponent after).length ≤
      (writeFraction numeral.fraction (writeExponent numeral.exponent after)).length := by
    cases numeral.fraction with
    | nil => exact Nat.le_refl _
    | cons digit rest =>
        simp only [writeFraction, List.length_cons, List.length_append]
        omega
  rw [writeNumeral_eq, List.length_append, List.length_append]
  omega

mutual

theorem length_write : (value : Json) → (after : List Char) →
    after.length < (write value after).length
  | .null, after | .bool true, after | .bool false, after | .illegible, after
  | .array [], after | .object [], after => by
      simp only [write, List.length_cons]
      omega
  | .number numeral, after => by
      rw [write]
      exact length_writeNumeral numeral after
  | .string text, after => by
      have written := length_writeString text after
      rw [write]
      omega
  | .array (item :: items), after => by
      have first := length_write item (writeItems items (']' :: after))
      have rest := length_writeItems items (']' :: after)
      rw [List.length_cons] at rest
      rw [write, List.length_cons]
      omega
  | .object ((key, value) :: members), after => by
      have name := length_writeString key (':' :: write value (writeMembers members ('}' :: after)))
      have first := length_write value (writeMembers members ('}' :: after))
      have rest := length_writeMembers members ('}' :: after)
      rw [List.length_cons] at rest name
      rw [write, List.length_cons]
      omega

theorem length_writeItems : (items : List Json) → (after : List Char) →
    after.length ≤ (writeItems items after).length
  | [], after => Nat.le_refl _
  | item :: items, after => by
      have first := length_write item (writeItems items after)
      have rest := length_writeItems items after
      rw [writeItems, List.length_cons]
      omega

theorem length_writeMembers : (members : List (String × Json)) → (after : List Char) →
    after.length ≤ (writeMembers members after).length
  | [], after => Nat.le_refl _
  | (key, value) :: members, after => by
      have name := length_writeString key (':' :: write value (writeMembers members after))
      have first := length_write value (writeMembers members after)
      have rest := length_writeMembers members after
      rw [List.length_cons] at name
      rw [writeMembers, List.length_cons]
      omega

end

/-! ### Steps of the reader -/

/-- The first character of what is written of a value is no gap, and does not end an array. -/
def Begins (c : Char) : Prop :=
  isGap (some c) = false ∧ c ≠ ']'

theorem begins_of_digit {c : Char} (digit : c.isDigit) : Begins c := by
  refine ⟨?_, ?_⟩
  · unfold isGap
    rw [Bool.or_eq_false_iff, Bool.or_eq_false_iff, Bool.or_eq_false_iff]
    refine ⟨⟨⟨?_, ?_⟩, ?_⟩, ?_⟩ <;>
      · rw [decide_eq_false_iff_not]
        rintro rfl
        cases digit
  · rintro rfl
    cases digit

theorem exists_write (value : Json) (after : List Char) :
    ∃ c rest, write value after = c :: rest ∧ Begins c := by
  match value with
  | .null | .bool true | .bool false | .illegible | .array [] | .object [] | .string _
  | .array (_ :: _) | .object (_ :: _) => exact ⟨_, _, by rw [write]; try rfl, by decide, by decide⟩
  | .number numeral =>
      rw [write, writeNumeral_eq]
      obtain ⟨digit, rest, same, isDigit⟩ := toDigits_begins numeral.whole
      cases numeral.negative with
      | true => exact ⟨_, _, rfl, by decide, by decide⟩
      | false => exact ⟨digit, _, by rw [same]; rfl, begins_of_digit isDigit⟩

section

variable {c : Char} {fuel : Nat} {letters rest after : List Letter} {item value : Json}
  {items : List Json} {key : String} {members : List (Option String × Json)}

theorem skipGap_of_begins (begins : Begins c) : skipGap (some c :: rest) = some c :: rest :=
  List.dropWhile_cons_of_neg (Bool.eq_false_iff.mp begins.1)

theorem readValue_digit (digit : c.isDigit) :
    readValue (fuel + 1) (some c :: rest) = readNumber false (some c :: rest) := by
  rw [readValue, skipGap_of_begins (begins_of_digit digit)]
  split
  iterate 7
    rename_i same
    cases same
    cases digit
  rfl

theorem readValue_quote {text : String} (read : readString rest = some (some text, after)) :
    readValue (fuel + 1) (some '"' :: rest) = some (.string text, after) := by
  change (readString rest >>= _) = _
  rw [read]
  rfl

theorem readValue_bracket (begins : Begins c)
    (read : readItems fuel (some c :: rest) = some (items, after)) :
    readValue (fuel + 1) (some '[' :: some c :: rest) = some (.array items, after) := by
  have opens : skipGap (some '[' :: some c :: rest) = some '[' :: some c :: rest := rfl
  simp only [readValue, opens, skipGap_of_begins begins]
  split
  · rename_i same
    cases same
    exact absurd rfl begins.2
  · rw [read]
    rfl

theorem readValue_brace
    (read : readMembers fuel (some '"' :: rest) = some (members, after)) :
    readValue (fuel + 1) (some '{' :: some '"' :: rest) = some (objectOf members, after) := by
  change (readMembers fuel (some '"' :: rest) >>= _) = _
  rw [read]
  rfl

theorem readItems_last (read : readValue fuel letters = some (item, some ']' :: after)) :
    readItems (fuel + 1) letters = some ([item], after) := by
  rw [readItems, read]
  rfl

theorem readItems_more (read : readValue fuel letters = some (item, some ',' :: rest))
    (others : readItems fuel rest = some (items, after)) :
    readItems (fuel + 1) letters = some (item :: items, after) := by
  rw [readItems, read]
  change (readItems fuel rest >>= _) = _
  rw [others]
  rfl

theorem readMembers_last (name : readString letters = some (some key, some ':' :: rest))
    (read : readValue fuel rest = some (value, some '}' :: after)) :
    readMembers (fuel + 1) (some '"' :: letters) = some ([(some key, value)], after) := by
  change (readString letters >>= _) = _
  rw [name]
  change (readValue fuel rest >>= _) = _
  rw [read]
  rfl

theorem readMembers_more {between : List Letter}
    (name : readString letters = some (some key, some ':' :: rest))
    (read : readValue fuel rest = some (value, some ',' :: between))
    (others : readMembers fuel between = some (members, after)) :
    readMembers (fuel + 1) (some '"' :: letters) = some ((some key, value) :: members, after) := by
  change (readString letters >>= _) = _
  rw [name]
  change (readValue fuel rest >>= _) = _
  rw [read]
  change (readMembers fuel between >>= _) = _
  rw [others]
  rfl

end

theorem objectOf_legible (members : List (String × Json)) :
    objectOf (members.map fun member => (some member.1, member.2)) = .object members := by
  have all : (members.map fun member => (some member.1, member.2)).mapM
      (fun member : Option String × Json => member.1.map fun key => (key, member.2)) =
        some members := by
    induction members with
    | nil => rfl
    | cons head tail ih =>
        rw [List.map_cons, List.mapM_cons, ih]
        rfl
  unfold objectOf
  rw [all]

theorem ends_of_mark {c : Char} (mark : c = ',' ∨ c = ']' ∨ c = '}') (rest : List Char) :
    Ends (c :: rest) := by
  intro other member
  cases member
  rcases mark with rfl | rfl | rfl <;> decide

theorem writeItems_ends (items : List Json) (after : List Char) :
    Ends (writeItems items (']' :: after)) := by
  cases items with
  | nil => exact ends_of_mark (by decide) after
  | cons item items => exact ends_of_mark (by decide) _

theorem writeMembers_ends (members : List (String × Json)) (after : List Char) :
    Ends (writeMembers members ('}' :: after)) := by
  cases members with
  | nil => exact ends_of_mark (by decide) after
  | cons member members => exact ends_of_mark (by decide) _

mutual

/-- What is written of a value is read as the value, if the fuel is as much as the characters of it:
the reader needs one for each value and each separator. -/
theorem readValue_write : (value : Json) → value.Legible → (after : List Char) → Ends after →
    (fuel : Nat) → (write value after).length ≤ fuel + after.length →
    readValue fuel ((write value after).map some) = some (value, after.map some)
  -- something is always written of a value, so there is fuel left to read it
  | value, _, after, _, 0, enough => by
      have longer := length_write value after
      omega
  | .null, _, after, _, _ + 1, _ | .bool true, _, after, _, _ + 1, _
  | .bool false, _, after, _, _ + 1, _ | .array [], _, after, _, _ + 1, _
  | .object [], _, after, _, _ + 1, _ => by
      rw [write]
      rfl
  | .number numeral, legible, after, ends, fuel + 1, _ => by
      have read := readNumber_written numeral legible ends
      rw [write, writeNumeral_eq]
      cases negative : numeral.negative with
      | true =>
          rw [negative] at read
          exact read
      | false =>
          rw [negative] at read
          obtain ⟨digit, rest, same, isDigit⟩ := toDigits_begins numeral.whole
          rw [same] at read ⊢
          exact (readValue_digit isDigit).trans read
  | .string text, _, after, _, fuel + 1, _ => by
      rw [write]
      exact readValue_quote (readString_writeText text after)
  | .array (item :: items), legible, after, _, fuel + 1, enough => by
      rw [write, List.length_cons] at enough
      have read := readItems_write item items legible after fuel (by omega)
      obtain ⟨c, rest, written, begins⟩ := exists_write item (writeItems items (']' :: after))
      rw [write]
      rw [written] at read ⊢
      exact readValue_bracket begins read
  | .object ((key, value) :: members), legible, after, _, fuel + 1, enough => by
      rw [write, List.length_cons] at enough
      have read := readMembers_write key value members legible after fuel (by omega)
      rw [write, ← objectOf_legible]
      exact readValue_brace read

theorem readItems_write : (item : Json) → (items : List Json) →
    ItemsLegible (item :: items) → (after : List Char) → (fuel : Nat) →
    (write item (writeItems items (']' :: after))).length ≤ fuel + after.length →
    readItems fuel ((write item (writeItems items (']' :: after))).map some) =
      some (item :: items, after.map some)
  | item, items, _, after, 0, enough => by
      have first := length_write item (writeItems items (']' :: after))
      have rest := length_writeItems items (']' :: after)
      rw [List.length_cons] at rest
      omega
  | item, [], legible, after, fuel + 1, enough => by
      have ends := writeItems_ends [] after
      exact readItems_last (readValue_write item legible.1 _ ends fuel
        (by rw [writeItems] at enough ⊢; rw [List.length_cons]; omega))
  | item, next :: items, legible, after, fuel + 1, enough => by
      have first := length_write item (writeItems (next :: items) (']' :: after))
      have rest := length_write next (writeItems items (']' :: after))
      have others := length_writeItems items (']' :: after)
      rw [List.length_cons] at others
      rw [writeItems, List.length_cons] at first
      rw [writeItems] at enough
      have read := readValue_write item legible.1 _ (writeItems_ends (next :: items) after)
        fuel (by rw [writeItems, List.length_cons]; omega)
      exact readItems_more read (readItems_write next items legible.2 after fuel (by omega))

theorem readMembers_write : (key : String) → (value : Json) → (members : List (String × Json)) →
    MembersLegible ((key, value) :: members) → (after : List Char) → (fuel : Nat) →
    (writeString key (':' :: write value (writeMembers members ('}' :: after)))).length ≤
      fuel + after.length →
    readMembers fuel
      ((writeString key (':' :: write value (writeMembers members ('}' :: after)))).map some) =
      some (((key, value) :: members).map (fun member => (some member.1, member.2)),
        after.map some)
  | key, value, members, _, after, 0, enough => by
      have name := length_writeString key (':' :: write value (writeMembers members ('}' :: after)))
      have first := length_write value (writeMembers members ('}' :: after))
      have rest := length_writeMembers members ('}' :: after)
      rw [List.length_cons] at name rest
      omega
  | key, value, [], legible, after, fuel + 1, enough => by
      have name := length_writeString key (':' :: write value (writeMembers [] ('}' :: after)))
      rw [List.length_cons] at name
      have read := readValue_write value legible.1 _ (writeMembers_ends [] after) fuel
        (by rw [writeMembers] at enough name ⊢; rw [List.length_cons]; omega)
      exact readMembers_last (readString_writeText key _) read
  | key, value, (nextKey, next) :: members, legible, after, fuel + 1, enough => by
      have name := length_writeString key
        (':' :: write value (writeMembers ((nextKey, next) :: members) ('}' :: after)))
      have first := length_write value (writeMembers ((nextKey, next) :: members) ('}' :: after))
      have others := length_writeMembers members ('}' :: after)
      have second := length_write next (writeMembers members ('}' :: after))
      have nextName := length_writeString nextKey
        (':' :: write next (writeMembers members ('}' :: after)))
      rw [writeMembers, List.length_cons] at first
      rw [writeMembers, List.length_cons] at name
      rw [List.length_cons] at others nextName
      rw [writeMembers] at enough
      have read := readValue_write value legible.1 _
        (writeMembers_ends ((nextKey, next) :: members) after) fuel
        (by rw [writeMembers, List.length_cons]; omega)
      exact readMembers_more (readString_writeText key _) read
        (readMembers_write nextKey next members legible.2 after fuel (by omega))

end

theorem readLetters_write {value : Json} (legible : value.Legible) :
    readLetters ((write value []).map some) = some value := by
  have read := readValue_write value legible [] nofun
    (2 * ((write value []).map some).length + 2) (by rw [List.length_map, List.length_nil]; omega)
  unfold readLetters
  rw [read]
  rfl

theorem lettersOf_encode (text : List Char) :
    lettersOf (Text.Utf8.encode (String.ofList text)) = text.map some := by
  unfold lettersOf
  rw [Text.Utf8.pieces_encode, List.map_map]
  rfl

theorem read_bytes {value : Json} (legible : value.Legible) : read value.bytes = some value := by
  unfold read bytes render
  rw [lettersOf_encode]
  exact readLetters_write legible

end StagedRuns.Json
