import StagedRuns.Proofs.Result
import StagedRuns.Text.Utf8

/-!
What is written in UTF-8 is read back, character by character, and a byte of its own is never part
of a longer character.
-/

namespace StagedRuns.Text.Utf8

theorem encode_ofList (text : List Char) :
    encode (String.ofList text) = text.flatMap String.utf8EncodeChar := by
  unfold encode
  simp only [String.toUTF8, String.toByteArray_ofList, List.utf8Encode, List.data_toByteArray]

theorem continuation_cons (tails bits used n : Nat) (rest : List UInt8) :
    continuation (tails + 1) bits used (UInt8.ofNat (n % 64 + 128) :: rest) =
      continuation tails (bits * 64 + n % 64) (used + 1) rest := by
  have below : n % 64 + 128 < 192 := by omega
  have size : (UInt8.ofNat (n % 64 + 128)).toNat = n % 64 + 128 :=
    UInt8.toNat_ofNat_of_lt' (Nat.lt_trans below (by decide))
  rw [continuation, if_pos, size, Nat.add_sub_cancel]
  simp only [UInt8.le_iff_toNat_le, size]
  exact ⟨Nat.le_add_left _ _, Nat.le_of_lt_succ below⟩

theorem lead_two : ∀ x < 32, 2 ≤ x →
    Lead.of? (UInt8.ofNat (x + 192)) = some ⟨1, x, .ofNat 0x80, .ofNat 0xBF⟩ := by
  decide

theorem lead_three : ∀ x < 16, Lead.of? (UInt8.ofNat (x + 224)) =
    some ⟨2, x, .ofNat (if x = 0 then 0xA0 else 0x80), .ofNat (if x = 0xD then 0x9F else 0xBF)⟩ := by
  decide

theorem lead_four : ∀ x < 5, Lead.of? (UInt8.ofNat (x + 240)) =
    some ⟨3, x, .ofNat (if x = 0 then 0x90 else 0x80), .ofNat (if x = 4 then 0x8F else 0xBF)⟩ := by
  decide

theorem first_led {byte : UInt8} {tails bits low high next : Nat} {rest : List UInt8}
    (leads : Lead.of? byte = some ⟨tails, bits, .ofNat low, .ofNat high⟩)
    (above : low ≤ next % 64 + 128) (below : next % 64 + 128 ≤ high) (fits : high < 256) :
    first byte (.ofNat (next % 64 + 128) :: rest) =
      continuation tails bits 1 (.ofNat (next % 64 + 128) :: rest) := by
  have long : ¬ byte < 0x80 := by
    intro short
    have none : Lead.of? byte = none := if_pos (UInt8.lt_trans short (by decide))
    cases none.symm.trans leads
  have within : ¬ (UInt8.ofNat (next % 64 + 128) < .ofNat low ∨
      UInt8.ofNat high < .ofNat (next % 64 + 128)) := by
    have size : UInt8.size = 256 := rfl
    rw [UInt8.ofNat_lt_iff_lt, UInt8.ofNat_lt_iff_lt] <;> omega
  unfold first
  rw [if_neg long, leads]
  exact if_neg within

theorem first_encodeChar (c : Char) (rest : List UInt8) :
    ∃ head tail, String.utf8EncodeChar c = head :: tail ∧
      first head (tail ++ rest) = (.char c, rest) := by
  have valid : c.val.toNat < 0xD800 ∨ 0xDFFF < c.val.toNat ∧ c.val.toNat < 0x110000 := c.valid
  have same : Char.ofNat c.val.toNat = c := Char.ofNat_toNat c
  unfold String.utf8EncodeChar
  generalize c.val.toNat = code at valid same ⊢
  dsimp only
  -- One case for each number of bytes.
  split
  · rename_i single
    have short : UInt8.ofNat code < 0x80 :=
      (UInt8.ofNat_lt_iff_lt (Nat.lt_of_le_of_lt single (by decide)) (by decide)).mpr
        (Nat.lt_succ_of_le single)
    have size : (UInt8.ofNat code).toNat = code :=
      UInt8.toNat_ofNat_of_lt' (Nat.lt_of_le_of_lt single (by decide))
    refine ⟨_, [], rfl, ?_⟩
    rw [first.eq_def, if_pos short, size, same, List.nil_append]
  · split
    · have leads := lead_two (code / 64 % 32) (by omega) (by omega)
      have whole : code / 64 % 32 * 64 + code % 64 = code := by omega
      refine ⟨_, _, rfl, ?_⟩
      rw [List.singleton_append, first_led leads (by omega) (by omega) (by decide),
        continuation_cons, whole, continuation, same]
    · split
      · have leads := lead_three (code / 4096 % 16) (by omega)
        have whole : (code / 4096 % 16 * 64 + code / 64 % 64) * 64 + code % 64 = code := by omega
        refine ⟨_, _, rfl, ?_⟩
        rw [List.cons_append, List.singleton_append, first_led leads, continuation_cons,
          continuation_cons, whole, continuation, same]
        all_goals split <;> omega
      · have leads := lead_four (code / 262144 % 8) (by omega)
        have whole : ((code / 262144 % 8 * 64 + code / 4096 % 64) * 64 + code / 64 % 64) * 64 +
            code % 64 = code := by
          omega
        refine ⟨_, _, rfl, ?_⟩
        rw [List.cons_append, List.cons_append, List.singleton_append, first_led leads,
          continuation_cons, continuation_cons, continuation_cons, whole, continuation, same]
        all_goals split <;> omega

theorem pieces_encode (text : List Char) :
    pieces (encode (String.ofList text)) = text.map .char := by
  rw [encode_ofList]
  induction text with
  | nil => rw [List.flatMap_nil, pieces, List.map_nil]
  | cons c rest ih =>
      obtain ⟨head, tail, spelled, read⟩ :=
        first_encodeChar c (rest.flatMap String.utf8EncodeChar)
      rw [List.flatMap_cons, spelled, List.cons_append, pieces, read, ih, List.map_cons]

theorem mem_encode {c : Char} {text : List Char} (ascii : c.toNat < 0x80) (member : c ∈ text) :
    UInt8.ofNat c.toNat ∈ encode (String.ofList text) := by
  rw [encode_ofList]
  refine List.mem_flatMap.mpr ⟨c, member, ?_⟩
  have single : c.val.toNat ≤ 127 := Nat.le_of_lt_succ ascii
  unfold String.utf8EncodeChar
  rw [if_pos single]
  exact List.mem_singleton_self _

theorem mem_continuation {tails bits used : Nat} {bytes rest : List UInt8} {c : Char}
    {byte : UInt8} (read : continuation tails bits used bytes = (.char c, rest))
    (ascii : byte < 0x80) (member : byte ∈ bytes) : byte ∈ rest := by
  induction tails generalizing bits used bytes with
  | zero =>
      cases read
      exact member
  | succ tails ih =>
      cases bytes with
      | nil => cases member
      | cons head tail =>
          simp only [continuation] at read
          by_cases follows : 0x80 ≤ head ∧ head ≤ 0xBF
          · rw [if_pos follows] at read
            have different : byte ≠ head := by
              rintro rfl
              exact absurd follows.1 (UInt8.not_le.mpr ascii)
            exact ih read (List.mem_of_ne_of_mem different member)
          · rw [if_neg follows] at read
            cases read

theorem mem_first {head : UInt8} {tail rest : List UInt8} {c : Char} {byte : UInt8}
    (read : first head tail = (.char c, rest)) (ascii : byte < 0x80)
    (member : byte ∈ head :: tail) : c = Char.ofNat byte.toNat ∨ byte ∈ rest := by
  unfold first at read
  by_cases single : head < 0x80
  · rw [if_pos single] at read
    cases read
    rcases List.mem_cons.mp member with same | inTail
    · exact Or.inl (by rw [same])
    · exact Or.inr inTail
  · rw [if_neg single] at read
    have different : byte ≠ head := by
      rintro rfl
      exact single ascii
    have inTail := List.mem_of_ne_of_mem different member
    cases announced : Lead.of? head with
    | none =>
        rw [announced] at read
        cases read
    | some lead =>
        cases tail with
        | nil => cases inTail
        | cons next later =>
            simp only [announced] at read
            split at read
            · cases read
            · exact Or.inr (mem_continuation read ascii inTail)

theorem mem_characters {bytes : List UInt8} {text : List Char} {index : Nat} {byte : UInt8}
    (ascii : byte < 0x80) (read : characters index (pieces bytes) = .ok text)
    (member : byte ∈ bytes) : Char.ofNat byte.toNat ∈ text := by
  induction bytes using pieces.induct generalizing index text with
  | case1 => cases member
  | case2 head tail ih =>
      rw [pieces] at read
      cases cut : first head tail with
      | mk piece rest =>
          rw [cut] at read ih
          cases piece with
          | malformed length atEnd => cases atEnd <;> cases read
          | char c =>
              obtain ⟨more, laterRead, same⟩ := Result.bind_eq_ok.mp read
              cases same
              rcases mem_first cut ascii member with same | inRest
              · exact same ▸ List.mem_cons_self
              · exact List.mem_cons_of_mem c (ih laterRead inRest)

theorem mem_decode {bytes : List UInt8} {text : String} {byte : UInt8} (ascii : byte < 0x80)
    (read : decode bytes = .ok text) (member : byte ∈ bytes) :
    Char.ofNat byte.toNat ∈ text.toList := by
  obtain ⟨chars, cut, same⟩ := Result.bind_eq_ok.mp read
  rw [← Result.pure_eq_ok.mp same, String.toList_ofList]
  exact mem_characters ascii cut member

end StagedRuns.Text.Utf8
