import StagedRuns.Json.Reader
import StagedRuns.Json.Writer

/-!
Strings and numbers are read back from what is written of them.
-/

namespace StagedRuns.Json

def readMarksAfter (c : Char) (after : List Letter) : Option (List Mark × List Letter) :=
  (readMarks after).map fun read => (.char c :: read.1, read.2)

theorem readMarks_short {letter c : Char} (stands : escape? letter = some c)
    (after : List Letter) :
    readMarks (some '\\' :: some letter :: after) = readMarksAfter c after := by
  have notNumbered : letter ≠ 'u' := by
    rintro rfl
    cases stands
  rw [readMarks.eq_5 letter after fun _ _ _ _ _ _ => notNumbered, stands]
  unfold readMarksAfter
  cases readMarks after <;> rfl

theorem hexQuad?_control : ∀ code < 0x20,
    hexQuad? (some '0') (some '0') (some (Nat.digitChar (code / 16)))
      (some (Nat.digitChar (code % 16))) = some code := by
  decide

theorem readMarks_numbered {c : Char} (control : c.toNat < 0x20) (after : List Letter) :
    readMarks (some '\\' :: some 'u' :: some '0' :: some '0' ::
      some (Nat.digitChar (c.toNat / 16)) :: some (Nat.digitChar (c.toNat % 16)) :: after) =
        readMarksAfter c after := by
  have whole : isHalf c.toNat = false := by
    unfold isHalf
    rw [Bool.and_eq_false_iff, decide_eq_false_iff_not]
    omega
  rw [readMarks, hexQuad?_control c.toNat control]
  unfold readMarksAfter
  cases readMarks after <;> simp [whole, Char.ofNat_toNat]

theorem readMarks_plain {c : Char} (noQuote : c ≠ '"') (noEscape : c ≠ '\\')
    (noControl : ¬ c.toNat < 0x20) (after : List Letter) :
    readMarks (some c :: after) = readMarksAfter c after := by
  rw [readMarks.eq_7 c after noQuote (fun _ _ _ _ _ _ => noEscape) (fun _ _ _ => noEscape)
    noEscape, if_neg noControl]
  unfold readMarksAfter
  cases readMarks after <;> rfl

theorem readMarks_escaped (c : Char) (after : List Letter) :
    readMarks ((escaped c).map some ++ after) = readMarksAfter c after := by
  unfold escaped
  split
  iterate 7 exact readMarks_short rfl after
  split
  · rename_i control
    exact readMarks_numbered control after
  · rename_i noQuote noEscape _ _ _ _ _ noControl
    exact readMarks_plain noQuote noEscape noControl after

theorem readMarks_writeText (text after : List Char) :
    readMarks ((writeText text ('"' :: after)).map some) =
      some (text.map .char, after.map some) := by
  induction text with
  | nil => rfl
  | cons c rest ih =>
      unfold writeText at ih ⊢
      rw [List.foldr_cons, List.map_append, readMarks_escaped, readMarksAfter, ih]
      rfl

theorem textOfMarks_chars (text : List Char) : textOfMarks (text.map .char) = some text := by
  induction text with
  | nil => rfl
  | cons c rest ih =>
      rw [List.map_cons, textOfMarks, ih]
      rfl

theorem readString_writeText (text : String) (after : List Char) :
    readString ((writeText text.toList ('"' :: after)).map some) =
      some (some text, after.map some) := by
  unfold readString
  rw [readMarks_writeText]
  simp [textOfMarks_chars]

def Ends (after : List Char) : Prop :=
  ∀ c ∈ after.head?, c.isDigit = false ∧ c ≠ '.' ∧ c ≠ 'e' ∧ c ≠ 'E'

theorem takeDigits_append {digits : List Char} (areDigits : ∀ c ∈ digits, c.isDigit)
    {after : List Char} (ends : ∀ c ∈ after.head?, c.isDigit = false) :
    takeDigits ((digits ++ after).map some) = (digits, after.map some) := by
  induction digits with
  | nil =>
      cases after with
      | nil => rfl
      | cons c rest =>
          have other : ¬ c.isDigit := Bool.eq_false_iff.mp (ends c rfl)
          rw [List.nil_append, List.map_cons, takeDigits, if_neg other]
  | cons digit rest ih =>
      rw [List.forall_mem_cons] at areDigits
      rw [List.cons_append, List.map_cons, takeDigits, if_pos areDigits.1, ih areDigits.2]

theorem isDigit_of_mem_toDigits {n : Nat} : ∀ c ∈ Nat.toDigits 10 n, c.isDigit :=
  fun _ => Nat.isDigit_of_mem_toDigits (by decide) (by decide)

theorem toDigits_begins (n : Nat) :
    ∃ digit rest, Nat.toDigits 10 n = digit :: rest ∧ digit.isDigit := by
  obtain ⟨digit, rest, same⟩ :=
    List.exists_cons_of_ne_nil (Nat.toDigits_ne_nil (n := n) (b := 10))
  exact ⟨digit, rest, same, isDigit_of_mem_toDigits digit (same ▸ List.mem_cons_self)⟩

theorem naturalOfDigits_toDigits (n : Nat) : naturalOfDigits (Nat.toDigits 10 n) = n := by
  have same := Nat.ofDigitChars_ten_toDigits (n := n)
  rw [Nat.ofDigitChars_eq_foldl] at same
  unfold naturalOfDigits
  simpa [Nat.mul_comm] using same

/-- A number other than zero does not begin with the digit zero. -/
theorem exists_toDigits {n : Nat} (positive : n ≠ 0) :
    ∃ digit rest, Nat.toDigits 10 n = digit :: rest ∧ digit ≠ '0' := by
  induction n using Nat.strongRecOn with
  | ind n ih =>
      by_cases small : n < 10
      · have notZero : ∀ digit < 10, digit ≠ 0 → Nat.digitChar digit ≠ '0' := by decide
        exact ⟨_, [], Nat.toDigits_of_lt_base small, notZero n small positive⟩
      · obtain ⟨digit, rest, same, notZero⟩ := ih (n / 10) (by omega) (by omega)
        rw [Nat.toDigits_of_base_le (by decide) (by omega), same]
        exact ⟨digit, _, rfl, notZero⟩

def writeExponent (exponent : Option Int) (after : List Char) : List Char :=
  match exponent with
  | none => after
  | some power =>
      'e' :: ((if power < 0 then ['-'] else []) ++ Nat.toDigits 10 power.natAbs ++ after)

def writeFraction (fraction after : List Char) : List Char :=
  match fraction with
  | [] => after
  | digits => '.' :: (digits ++ after)

theorem writeNumeral_eq (numeral : Numeral) (after : List Char) :
    writeNumeral numeral after =
      (if numeral.negative then ['-'] else []) ++ Nat.toDigits 10 numeral.whole ++
        writeFraction numeral.fraction (writeExponent numeral.exponent after) := by
  unfold writeNumeral writeFraction writeExponent
  cases numeral.fraction <;> rfl

theorem readPower_toDigits {after : List Char} (ends : Ends after) (negative : Bool) (n : Nat) :
    readPower negative ((Nat.toDigits 10 n ++ after).map some) =
      some (some (if negative then -Int.ofNat n else Int.ofNat n), after.map some) := by
  unfold readPower
  rw [takeDigits_append isDigit_of_mem_toDigits fun c member => (ends c member).1]
  split
  · rename_i same
    exact absurd (congrArg Prod.fst same) Nat.toDigits_ne_nil
  · rename_i same
    cases same
    rw [naturalOfDigits_toDigits]

theorem readExponent_digit {digit : Char} (isDigit : digit.isDigit) (rest : List Letter) :
    readExponent (some 'e' :: some digit :: rest) = readPower false (some digit :: rest) := by
  unfold readExponent
  dsimp only
  rw [if_pos (.inl rfl)]
  split
  · rename_i same
    cases same
    cases isDigit
  · rename_i same
    cases same
    cases isDigit
  · rfl

theorem readExponent_writeExponent {after : List Char} (ends : Ends after)
    (exponent : Option Int) :
    readExponent ((writeExponent exponent after).map some) = some (exponent, after.map some) := by
  cases exponent with
  | none =>
      cases after with
      | nil => rfl
      | cons c rest =>
          obtain ⟨-, -, notE, notBigE⟩ := ends c rfl
          unfold writeExponent readExponent
          exact if_neg (not_or.mpr ⟨notE, notBigE⟩)
  | some power =>
      unfold writeExponent
      dsimp only
      by_cases negative : power < 0
      · have read := readPower_toDigits ends true power.natAbs
        have whole : -Int.ofNat power.natAbs = power := by
          rw [Int.ofNat_eq_natCast]
          omega
        rw [if_pos rfl, whole] at read
        rw [if_pos negative]
        exact read
      · have read := readPower_toDigits ends false power.natAbs
        have whole : Int.ofNat power.natAbs = power := by
          rw [Int.ofNat_eq_natCast]
          omega
        obtain ⟨digit, rest, same, isDigit⟩ := toDigits_begins power.natAbs
        rw [if_neg Bool.false_ne_true, whole, same] at read
        rw [if_neg negative, same]
        exact (readExponent_digit isDigit _).trans read

theorem writeExponent_ends {after : List Char} (ends : Ends after) (exponent : Option Int) :
    ∀ c ∈ (writeExponent exponent after).head?, c.isDigit = false ∧ c ≠ '.' := by
  cases exponent with
  | none => exact fun c member => ⟨(ends c member).1, (ends c member).2.1⟩
  | some power =>
      intro c member
      cases member
      decide

theorem readFraction_writeFraction {fraction : List Char}
    (areDigits : ∀ c ∈ fraction, c.isDigit) {after : List Char}
    (ends : ∀ c ∈ after.head?, c.isDigit = false ∧ c ≠ '.') :
    readFraction ((writeFraction fraction after).map some) = some (fraction, after.map some) := by
  cases fraction with
  | nil =>
      cases after with
      | nil => rfl
      | cons c rest =>
          have notPoint := (ends c rfl).2
          rw [writeFraction, List.map_cons, readFraction]
          rintro others same
          cases same
          exact notPoint rfl
  | cons digit rest =>
      rw [writeFraction, List.map_cons, readFraction,
        takeDigits_append areDigits fun c member => (ends c member).1]
      nofun

theorem writeFraction_ends (fraction : List Char) {after : List Char}
    (ends : ∀ c ∈ after.head?, c.isDigit = false) :
    ∀ c ∈ (writeFraction fraction after).head?, c.isDigit = false := by
  cases fraction with
  | nil => exact ends
  | cons digit rest =>
      intro c member
      cases member
      decide

theorem readNumber_written (numeral : Numeral) (areDigits : ∀ c ∈ numeral.fraction, c.isDigit)
    {after : List Char} (ends : Ends after) :
    readNumber numeral.negative
      ((Nat.toDigits 10 numeral.whole ++
        writeFraction numeral.fraction (writeExponent numeral.exponent after)).map some) =
      some (.number numeral, after.map some) := by
  have exponentEnds := writeExponent_ends ends numeral.exponent
  have written := takeDigits_append (isDigit_of_mem_toDigits (n := numeral.whole))
    (writeFraction_ends numeral.fraction fun c member => (exponentEnds c member).1)
  have fraction := readFraction_writeFraction areDigits exponentEnds
  have exponent := readExponent_writeExponent ends numeral.exponent
  unfold readNumber
  by_cases zero : numeral.whole = 0
  · rw [zero, Nat.toDigits_zero] at written ⊢
    simp only [written, fraction, exponent, Option.bind_eq_bind, Option.bind_some]
    rw [← zero]
    rfl
  · obtain ⟨digit, rest, same, notZero⟩ := exists_toDigits zero
    have value := naturalOfDigits_toDigits numeral.whole
    rw [same] at written value ⊢
    simp only [written, fraction, exponent, Option.bind_eq_bind, Option.bind_some]
    split
    · contradiction
    · rename_i begins
      cases begins
      contradiction
    · rename_i begins
      cases begins
      contradiction
    · rw [value]
      rfl

end StagedRuns.Json
