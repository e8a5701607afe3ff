import StagedRuns.Proofs.Url.Host

/-!
Percent-decoding piece by piece: what it makes of octets one after the other and at a slash, that it
never makes more of them, and that it undoes percent-encoding.
-/

namespace StagedRuns.Url.Escape

/-! ### Decoding -/

def isHex (byte : UInt8) : Bool :=
  (hexValue? (Char.ofNat byte.toNat)).isSome

theorem octet?_isSome (mark high low : UInt8) :
    (octet? mark high low).isSome = (decide (mark = 0x25) && isHex high && isHex low) := by
  unfold octet? isHex
  cases hexValue? (Char.ofNat high.toNat) <;> cases hexValue? (Char.ofNat low.toNat) <;>
    simp [apply_ite Option.isSome]

/-- What octets behind a mark spell together with it, and what follows. -/
def spelled? (mark : UInt8) : List UInt8 → Option (UInt8 × List UInt8)
  | high :: low :: rest => (octet? mark high low).map fun byte => (byte, rest)
  | _ => none

theorem decode_of_spelled {mark byte : UInt8} {after rest : List UInt8}
    (spelled : spelled? mark after = some (byte, rest)) :
    decode (mark :: after) = byte :: decode rest := by
  match after, spelled with
  | high :: low :: after, spelled =>
      obtain ⟨_, found, same⟩ := Option.map_eq_some_iff.mp spelled
      cases same
      rw [decode, found]

theorem decode_of_plain {mark : UInt8} {after : List UInt8} (plain : spelled? mark after = none) :
    decode (mark :: after) = mark :: decode after := by
  match after, plain with
  | [], _ => rfl
  | [_], _ => rfl
  | high :: low :: after, plain =>
      rw [decode, Option.map_eq_none_iff.mp plain]

def beginsPlain : List UInt8 → Bool
  | high :: low :: _ => !(isHex high && isHex low)
  | _ => true

theorem beginsPlain_of_first {high : UInt8} (noDigit : isHex high = false) (after : List UInt8) :
    beginsPlain (high :: after) = true := by
  cases after with
  | nil => rfl
  | cons low after => rw [beginsPlain, noDigit, Bool.false_and, Bool.not_false]

theorem beginsPlain_of_second {low : UInt8} (noDigit : isHex low = false) (high : UInt8)
    (after : List UInt8) : beginsPlain (high :: low :: after) = true := by
  rw [beginsPlain, noDigit, Bool.and_false, Bool.not_false]

theorem spelled?_eq_none {mark : UInt8} {after : List UInt8}
    (plain : mark ≠ 0x25 ∨ beginsPlain after = true) : spelled? mark after = none := by
  match after, plain with
  | [], _ => rfl
  | [_], _ => rfl
  | high :: low :: after, plain =>
      have unread : (octet? mark high low).isSome = false := by
        rw [octet?_isSome]
        rcases plain with other | noDigits
        · rw [decide_eq_false other, Bool.false_and, Bool.false_and]
        · rw [beginsPlain, Bool.not_eq_true'] at noDigits
          rw [Bool.and_assoc, noDigits, Bool.and_false]
      rw [spelled?, Option.isNone_iff_eq_none.mp (Option.isSome_eq_false_iff.mp unread)]
      rfl

theorem decode_cons_of_ne {mark : UInt8} (other : mark ≠ 0x25) (after : List UInt8) :
    decode (mark :: after) = mark :: decode after :=
  decode_of_plain (spelled?_eq_none (.inl other))

theorem length_of_spelled {mark byte : UInt8} {after rest : List UInt8}
    (spelled : spelled? mark after = some (byte, rest)) : rest.length + 2 = after.length := by
  match after, spelled with
  | high :: low :: after, spelled =>
      obtain ⟨_, _, same⟩ := Option.map_eq_some_iff.mp spelled
      cases same
      rfl

theorem spelled?_slash (mark : UInt8) (before after : List UInt8) :
    spelled? mark (before ++ 0x2F :: after) =
      (spelled? mark before).map fun read => (read.1, read.2 ++ 0x2F :: after) := by
  match before with
  | [] => exact spelled?_eq_none (.inr (beginsPlain_of_first rfl after))
  | [high] => exact spelled?_eq_none (.inr (beginsPlain_of_second rfl high after))
  | high :: low :: before =>
      simp only [List.cons_append, spelled?, Option.map_map]
      rfl

/-- No escape goes across a slash. -/
theorem decode_slash (before after : List UInt8) :
    decode (before ++ 0x2F :: after) = decode before ++ 0x2F :: decode after := by
  match before with
  | [] => exact decode_cons_of_ne (by decide) after
  | mark :: before =>
      have split := spelled?_slash mark before after
      cases found : spelled? mark before with
      | none =>
          rw [found] at split
          rw [List.cons_append, decode_of_plain found, decode_of_plain split,
            decode_slash before after, List.cons_append]
      | some read =>
          rw [found] at split
          rw [List.cons_append, decode_of_spelled found, decode_of_spelled split,
            decode_slash read.2 after, List.cons_append]
termination_by before.length
decreasing_by
  · exact Nat.lt_succ_self _
  · have shorter := length_of_spelled found
    simp only [List.length_cons]
    omega

theorem decode_eq_or_shorter (bytes : List UInt8) :
    decode bytes = bytes ∨ (decode bytes).length < bytes.length := by
  fun_induction decode bytes with
  | case1 mark high low rest byte _ ih =>
      right
      rcases ih with same | shorter
      · rw [same]
        simp only [List.length_cons]
        omega
      · simp only [List.length_cons]
        omega
  | case2 mark high low rest _ ih =>
      rcases ih with same | shorter
      · exact .inl (congrArg (mark :: ·) same)
      · exact .inr (Nat.succ_lt_succ shorter)
  | case3 => exact .inl rfl

/-! ### Encoding -/

def hexByte (n : Nat) : UInt8 :=
  UInt8.ofNat (hexDigit n).toNat

/-- An octet as it is written: as itself or percent-encoded. -/
def written (keeps : UInt8 → Bool) (byte : UInt8) : List UInt8 :=
  if keeps byte then [byte]
  else [0x25, hexByte (byte.toNat / 16), hexByte (byte.toNat % 16)]

theorem octet?_hexByte : ∀ n < 256,
    octet? 0x25 (hexByte (n / 16)) (hexByte (n % 16)) = some (UInt8.ofNat n) := by
  decide +kernel

theorem decode_written_append {keeps : UInt8 → Bool} {byte : UInt8}
    (plain : byte ≠ 0x25 ∨ keeps byte = false) (after : List UInt8) :
    decode (written keeps byte ++ after) = byte :: decode after := by
  unfold written
  split
  · rename_i kept
    exact decode_cons_of_ne (plain.resolve_right (by simp [kept])) after
  · have spelled : spelled? 0x25 (hexByte (byte.toNat / 16) :: hexByte (byte.toNat % 16) :: after) =
        some (byte, after) := by
      rw [spelled?, octet?_hexByte byte.toNat byte.toNat_lt, UInt8.ofNat_toNat]
      rfl
    exact decode_of_spelled spelled

/-- Decoding undoes encoding if percent signs are encoded. -/
theorem decode_written {keeps : UInt8 → Bool} (encodes : keeps 0x25 = false) (bytes : List UInt8) :
    decode (bytes.flatMap (written keeps)) = bytes := by
  induction bytes with
  | nil => rfl
  | cons byte rest ih =>
      have plain : byte ≠ 0x25 ∨ keeps byte = false := by
        by_cases same : byte = 0x25
        · exact .inr (same ▸ encodes)
        · exact .inl same
      rw [List.flatMap_cons, decode_written_append plain, ih]

theorem spelled?_written {keeps : UInt8 → Bool} (digits : ∀ byte, isHex byte → keeps byte)
    (after : List UInt8) :
    spelled? 0x25 (after.flatMap (written keeps)) =
      (spelled? 0x25 after).map fun read => (read.1, read.2.flatMap (written keeps)) := by
  -- What is encoded is no digit, neither before nor after.
  have encoded {byte : UInt8} (unkept : ¬ keeps byte = true) :
      isHex byte = false ∧ ∀ more, ∃ rest, written keeps byte ++ more = 0x25 :: rest := by
    refine ⟨Bool.eq_false_iff.mpr fun hex => unkept (digits byte hex), fun more => ?_⟩
    rw [written, if_neg unkept]
    exact ⟨_, rfl⟩
  match after with
  | [] => rfl
  | high :: after =>
      rw [List.flatMap_cons]
      by_cases keptHigh : keeps high = true
      · rw [written, if_pos keptHigh, List.singleton_append]
        match after with
        | [] => rfl
        | low :: after =>
            rw [List.flatMap_cons]
            by_cases keptLow : keeps low = true
            · rw [written, if_pos keptLow, List.singleton_append]
              simp only [spelled?, Option.map_map]
              rfl
            · obtain ⟨noDigit, begun⟩ := encoded keptLow
              obtain ⟨rest, same⟩ := begun (after.flatMap (written keeps))
              rw [same, spelled?_eq_none (.inr (beginsPlain_of_second rfl high rest)),
                spelled?_eq_none (.inr (beginsPlain_of_second noDigit high after))]
              rfl
      · obtain ⟨noDigit, begun⟩ := encoded keptHigh
        obtain ⟨rest, same⟩ := begun (after.flatMap (written keeps))
        rw [same, spelled?_eq_none (.inr (beginsPlain_of_first rfl rest)),
          spelled?_eq_none (.inr (beginsPlain_of_first noDigit after))]
        rfl

theorem mark_of_spelled {mark byte : UInt8} {after rest : List UInt8}
    (spelled : spelled? mark after = some (byte, rest)) : mark = 0x25 := by
  by_contra other
  rw [spelled?_eq_none (.inl other)] at spelled
  cases spelled

theorem decode_written_of_keeps {keeps : UInt8 → Bool} (digits : ∀ byte, isHex byte → keeps byte)
    (marks : keeps 0x25 = true) (bytes : List UInt8) :
    decode (bytes.flatMap (written keeps)) = decode bytes := by
  have markWritten : written keeps 0x25 = [0x25] := if_pos marks
  match bytes with
  | [] => rfl
  | byte :: rest =>
      cases found : spelled? byte rest with
      | none =>
          rw [List.flatMap_cons, decode_of_plain found,
            ← decode_written_of_keeps digits marks rest]
          by_cases mark : byte = 0x25
          · subst mark
            have plain := spelled?_written digits rest
            rw [found] at plain
            rw [markWritten, List.singleton_append, decode_of_plain plain]
          · exact decode_written_append (.inl mark) _
      | some read =>
          cases mark_of_spelled found
          have spelled := spelled?_written digits rest
          rw [found] at spelled
          rw [List.flatMap_cons, markWritten, List.singleton_append, decode_of_spelled spelled,
            decode_of_spelled found, decode_written_of_keeps digits marks read.2]
termination_by bytes.length
decreasing_by
  · exact Nat.lt_succ_self _
  · have shorter := length_of_spelled found
    simp only [List.length_cons]
    omega

/-! ### Texts -/

theorem utf8EncodeChar_of_ascii {c : Char} (ascii : c.toNat < 0x80) :
    String.utf8EncodeChar c = [UInt8.ofNat c.toNat] := by
  have single : c.val.toNat ≤ 127 := Nat.le_of_lt_succ ascii
  unfold String.utf8EncodeChar
  exact if_pos single

theorem eq_of_mem_utf8EncodeChar {c : Char} {byte : UInt8} (ascii : byte < 0x80)
    (member : byte ∈ String.utf8EncodeChar c) : c = Char.ofNat byte.toNat := by
  obtain ⟨head, tail, spelled, read⟩ := Text.Utf8.first_encodeChar c []
  rw [spelled, ← List.append_nil tail] at member
  exact (Text.Utf8.mem_first read ascii member).resolve_right List.not_mem_nil

def keptByte (keeps : Char → Bool) (byte : UInt8) : Bool :=
  byte < 0x80 && keeps (Char.ofNat byte.toNat)

theorem octet_bytes (byte : UInt8) :
    (octet byte).flatMap String.utf8EncodeChar =
      [0x25, hexByte (byte.toNat / 16), hexByte (byte.toNat % 16)] := by
  have digit : ∀ n < 16, String.utf8EncodeChar (hexDigit n) = [hexByte n] := by decide
  have bound := byte.toNat_lt
  simp only [octet, List.flatMap_cons, List.flatMap_nil, digit (byte.toNat / 16) (by omega),
    digit (byte.toNat % 16) (by omega)]
  rfl

/-- A text is encoded octet by octet. -/
theorem bytes_encode {keeps : Char → Bool} (ascii : ∀ c, keeps c = true → c.toNat < 0x80)
    (text : List Char) :
    Text.Utf8.encode (String.ofList (encode keeps text)) =
      (Text.Utf8.encode (String.ofList text)).flatMap (written (keptByte keeps)) := by
  rw [Text.Utf8.encode_ofList, Text.Utf8.encode_ofList, encode, List.flatMap_assoc,
    List.flatMap_assoc]
  refine List.flatMap_congr fun c _ => ?_
  by_cases kept : keeps c = true
  · have small := ascii c kept
    have size : (UInt8.ofNat c.toNat).toNat = c.toNat :=
      UInt8.toNat_ofNat_of_lt' (Nat.lt_trans small (by decide))
    have keptHere : keptByte keeps (UInt8.ofNat c.toNat) = true := by
      rw [keptByte, size, Char.ofNat_toNat, kept, Bool.and_true, decide_eq_true_eq,
        UInt8.lt_iff_toNat_lt, size]
      exact small
    rw [if_pos kept, List.flatMap_singleton, utf8EncodeChar_of_ascii small, List.flatMap_singleton,
      written, if_pos keptHere]
  · have unkept : ∀ byte ∈ String.utf8EncodeChar c, keptByte keeps byte = false := by
      intro byte member
      rw [Bool.eq_false_iff]
      intro keptHere
      obtain ⟨small, same⟩ := Bool.and_eq_true_iff.mp keptHere
      rw [← eq_of_mem_utf8EncodeChar (of_decide_eq_true small) member] at same
      exact kept same
    have bytes : Text.Utf8.encode (String.singleton c) = String.utf8EncodeChar c := by
      have listed : String.singleton c = String.ofList [c] := by
        rw [← String.toList_inj, String.toList_singleton, String.toList_ofList]
      rw [listed, Text.Utf8.encode_ofList, List.flatMap_singleton]
    rw [if_neg kept, char, bytes, List.flatMap_assoc]
    refine List.flatMap_congr fun byte member => ?_
    rw [octet_bytes, written, if_neg (by rw [unkept byte member]; decide)]

theorem ascii_of_keptInPath {c : Char} (kept : keptInPath c = true) : c.toNat < 0x80 := by
  simp only [keptInPath, isPlain, Bool.and_eq_true, decide_eq_true_eq] at kept
  omega

/-- A percent sign in a path is not encoded, so an escape that was there before remains. -/
theorem decode_encode_path (text : List Char) :
    decode (Text.Utf8.encode (String.ofList (encode keptInPath text))) =
      decode (Text.Utf8.encode (String.ofList text)) := by
  have digits : ∀ n < 256, isHex (UInt8.ofNat n) → keptByte keptInPath (UInt8.ofNat n) := by
    decide +kernel
  rw [bytes_encode (fun _ => ascii_of_keptInPath)]
  refine decode_written_of_keeps (fun byte hex => ?_) (by decide) _
  have kept := digits byte.toNat byte.toNat_lt
  rw [UInt8.ofNat_toNat] at kept
  exact kept hex

/-! ### Forms -/

def readPart (part : List Char) : String :=
  Text.Utf8.decodeWithReplacement
    (decode (Text.Utf8.encode (String.ofList (part.map fun c => if c = '+' then ' ' else c))))

/-- The pairs of names and values that a form spells. -/
def readForm (form : String) : List (String × String) :=
  ((form.toList.splitOn '&').filter (· ≠ [])).map fun pair =>
    (readPart (pair.takeWhile (· ≠ '=')), readPart ((pair.dropWhile (· ≠ '=')).drop 1))

def keptInForm (c : Char) : Bool :=
  c.isAlphanum || "*-._".toList.contains c

theorem toList_form (text : String) :
    (form text).toList = text.toList.flatMap fun c =>
      if c = ' ' then ['+'] else if keptInForm c then [c] else char c := by
  rw [form, String.toList_ofList]
  rfl

theorem other_of_mem_char {c d : Char} (member : d ∈ char c) : d ≠ '&' ∧ d ≠ '=' ∧ d ≠ '+' := by
  have digit : ∀ n < 16, hexDigit n ≠ '&' ∧ hexDigit n ≠ '=' ∧ hexDigit n ≠ '+' := by decide
  obtain ⟨byte, _, inOctet⟩ := List.mem_flatMap.mp member
  have bound := byte.toNat_lt
  simp only [octet, List.mem_cons, List.not_mem_nil, or_false] at inOctet
  rcases inOctet with rfl | rfl | rfl
  · decide
  · exact digit _ (by omega)
  · exact digit _ (by omega)

theorem other_of_keptInForm {c : Char} (kept : keptInForm c = true) :
    c ≠ '&' ∧ c ≠ '=' ∧ c ≠ '+' := by
  refine ⟨?_, ?_, ?_⟩ <;>
  · rintro rfl
    exact absurd kept (by decide)

theorem ascii_of_keptInForm {c : Char} (kept : keptInForm c = true) : c.toNat < 0x80 := by
  rcases Bool.or_eq_true_iff.mp kept with letter | sign
  · have plain := isPlain_of_isAlphanum letter
    unfold isPlain at plain
    simp only [Bool.and_eq_true, decide_eq_true_eq] at plain
    omega
  · have small : "*-._".toList.all (·.toNat < 0x80) = true := by decide
    exact of_decide_eq_true (List.all_eq_true.mp small c (List.contains_iff_mem.mp sign))

theorem readPart_form (text : String) : readPart (form text).toList = text := by
  have spaced : (form text).toList.map (fun c => if c = '+' then ' ' else c) =
      encode (fun c => c = ' ' || keptInForm c) text.toList := by
    rw [toList_form, List.map_flatMap, encode]
    refine List.flatMap_congr fun c _ => ?_
    by_cases space : c = ' '
    · simp [space]
    · rw [if_neg space, decide_eq_false space, Bool.false_or]
      by_cases kept : keptInForm c = true
      · simp [kept, (other_of_keptInForm kept).2.2]
      · rw [if_neg kept]
        conv_rhs => rw [← List.map_id (char c)]
        exact List.map_congr_left fun d member => if_neg (other_of_mem_char member).2.2
  have ascii : ∀ c, (decide (c = ' ') || keptInForm c) = true → c.toNat < 0x80 := by
    intro c kept
    rcases Bool.or_eq_true_iff.mp kept with space | kept
    · rw [of_decide_eq_true space]
      decide
    · exact ascii_of_keptInForm kept
  rw [readPart, spaced, bytes_encode ascii, decode_written (by decide),
    Text.Utf8.decodeWithReplacement, Text.Utf8.pieces_encode, List.map_map]
  conv_rhs => rw [← String.ofList_toList (s := text), ← List.map_id text.toList]
  rfl

theorem not_mem_form (text : String) : '&' ∉ (form text).toList ∧ '=' ∉ (form text).toList := by
  have other : ∀ c ∈ (form text).toList, c ≠ '&' ∧ c ≠ '=' := by
    intro c member
    rw [toList_form] at member
    obtain ⟨d, _, inPart⟩ := List.mem_flatMap.mp member
    split at inPart
    · rw [List.mem_singleton.mp inPart]
      decide
    · split at inPart
      · rename_i kept
        rw [List.mem_singleton.mp inPart]
        exact ⟨(other_of_keptInForm kept).1, (other_of_keptInForm kept).2.1⟩
      · exact ⟨(other_of_mem_char inPart).1, (other_of_mem_char inPart).2.1⟩
  exact ⟨fun member => (other _ member).1 rfl, fun member => (other _ member).2 rfl⟩

/-- A form of one pair is read as that pair. -/
theorem readForm_pair (name value : String) :
    readForm (form name ++ "=" ++ form value) = [(name, value)] := by
  have chars : (form name ++ "=" ++ form value).toList =
      (form name).toList ++ '=' :: (form value).toList := by
    simp
  have whole : '&' ∉ (form name).toList ++ '=' :: (form value).toList := by
    simp [(not_mem_form name).1, (not_mem_form value).1]
  have before : ∀ c ∈ (form name).toList, decide (c ≠ '=') = true := by
    intro c member
    exact decide_eq_true fun same => (not_mem_form name).2 (same ▸ member)
  rw [readForm, chars, List.splitOn_eq_singleton whole, List.filter_cons_of_pos (by simp),
    List.filter_nil, List.map_singleton, List.takeWhile_append_of_pos before,
    List.dropWhile_append_of_pos before]
  simp [readPart_form]

end StagedRuns.Url.Escape
