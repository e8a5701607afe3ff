import StagedRuns.Expr.Token.Scan
import StagedRuns.Proofs.Result
import StagedRuns.Proofs.Text.Cut

/-!
Texts and the tokens that they are cut into, composed token by token: signs, names and texts in
quotes. A token is cut together with all of the text that follows, so that a name ends where it can
go on no longer.
-/

namespace StagedRuns

namespace Text

def Ranges.apart (ranges others : Ranges) : Bool :=
  ranges.all fun range => others.all fun other => range.2 < other.1 || other.2 < range.1

theorem Ranges.not_holds_of_apart {ranges others : Ranges} (apart : ranges.apart others = true)
    {c : Char} (within : ranges.holds c = true) : others.holds c = false := by
  obtain ⟨range, member, holds⟩ := List.any_eq_true.mp within
  rw [Bool.and_eq_true, decide_eq_true_eq, decide_eq_true_eq] at holds
  unfold Ranges.holds
  rw [List.any_eq_false]
  intro other otherMember otherHolds
  rw [Bool.and_eq_true, decide_eq_true_eq, decide_eq_true_eq] at otherHolds
  have separate := List.all_eq_true.mp (List.all_eq_true.mp apart range member) other otherMember
  rw [Bool.or_eq_true, decide_eq_true_eq, decide_eq_true_eq] at separate
  omega

def asciiLetterRanges : Ranges :=
  [(0x41, 0x5A), (0x61, 0x7A)]

def digitRanges : Ranges :=
  [(0x30, 0x39)]

theorem Ranges.holds_of_mem {ranges : Ranges} {range : Nat × Nat} (member : range ∈ ranges)
    {c : Char} (low : range.1 ≤ c.toNat) (high : c.toNat ≤ range.2) : ranges.holds c = true := by
  refine List.any_eq_true.mpr ⟨range, member, ?_⟩
  rw [Bool.and_eq_true, decide_eq_true_eq, decide_eq_true_eq]
  exact ⟨low, high⟩

theorem digitRanges_holds {c : Char} (digit : c.isDigit = true) : digitRanges.holds c = true := by
  obtain ⟨low, high⟩ := Char.isDigit_iff_toNat.mp digit
  exact Ranges.holds_of_mem List.mem_cons_self low high

theorem asciiLetterRanges_holds {c : Char} (letter : c.isAlpha = true) :
    asciiLetterRanges.holds c = true := by
  rcases Bool.or_eq_true_iff.mp letter with upper | lower
  · obtain ⟨low, high⟩ := of_decide_eq_true upper
    exact Ranges.holds_of_mem List.mem_cons_self (UInt32.le_iff_toNat_le.mp low)
      (UInt32.le_iff_toNat_le.mp high)
  · obtain ⟨low, high⟩ := Bool.and_eq_true_iff.mp lower
    exact Ranges.holds_of_mem (List.mem_cons_of_mem _ List.mem_cons_self)
      (UInt32.le_iff_toNat_le.mp (of_decide_eq_true low))
      (UInt32.le_iff_toNat_le.mp (of_decide_eq_true high))

theorem isLetter_holds {c : Char} (letter : isLetter c = true) :
    (asciiLetterRanges ++ letterRanges).holds c = true := by
  unfold Ranges.holds
  rw [List.any_append, Bool.or_eq_true]
  rcases Bool.or_eq_true_iff.mp letter with ascii | beyond
  · exact .inl (asciiLetterRanges_holds ascii)
  · exact .inr beyond

theorem isBlank_of_isLetter {c : Char} (letter : isLetter c = true) : isBlank c = false :=
  Ranges.not_holds_of_apart (by decide +kernel) (isLetter_holds letter)

theorem isDigit_of_isLetter {c : Char} (letter : isLetter c = true) : c.isDigit = false := by
  have apart : digitRanges.holds c = false :=
    Ranges.not_holds_of_apart (by decide +kernel) (isLetter_holds letter)
  rw [Bool.eq_false_iff]
  intro digit
  rw [digitRanges_holds digit] at apart
  cases apart

end Text

namespace Expr

section Names

variable {c : Char}

theorem isBlank_of_beginsName (begins : beginsName c = true) : Text.isBlank c = false := by
  rcases Bool.or_eq_true_iff.mp begins with letter | line
  · exact Text.isBlank_of_isLetter letter
  · rw [of_decide_eq_true line]
    decide

theorem isDigit_of_beginsName (begins : beginsName c = true) : c.isDigit = false := by
  rcases Bool.or_eq_true_iff.mp begins with letter | line
  · exact Text.isDigit_of_isLetter letter
  · rw [of_decide_eq_true line]
    decide

theorem ne_of_beginsName (begins : beginsName c = true) {sign : Char}
    (noName : beginsName sign = false) : c ≠ sign := by
  rintro rfl
  rw [begins] at noName
  cases noName

theorem single?_of_beginsName (begins : beginsName c = true) : single? c = none := by
  unfold single?
  split <;> first | rfl | exact absurd begins (by decide +kernel)

theorem double?_of_beginsName (begins : beginsName c = true) : double? c = none := by
  unfold double?
  split <;> first | rfl | exact absurd begins (by decide +kernel)

end Names

/-- Whether a word has the shape of a name, be it a keyword or not. -/
def isName (word : String) : Bool :=
  match word.toList with
  | [] => false
  | c :: rest => beginsName c && rest.all continuesName

theorem spelling_of_isName {word : String} (named : isName word = true) :
    ∃ c rest, word.toList = c :: rest ∧ beginsName c = true ∧
      ∀ d ∈ rest, continuesName d = true := by
  unfold isName at named
  split at named
  · cases named
  · rename_i c rest spelled
    rw [Bool.and_eq_true, List.all_eq_true] at named
    exact ⟨c, rest, spelled, named⟩

theorem continuesName_of_beginsName {c : Char} (begins : beginsName c = true) :
    continuesName c = true := by
  rcases Bool.or_eq_true_iff.mp begins with letter | line
  · simp [continuesName, letter]
  · simp [continuesName, of_decide_eq_true line]

theorem continues_of_isName {word : String} (named : isName word = true) :
    ∀ c ∈ word.toList, continuesName c = true := by
  obtain ⟨c, rest, spelled, begins, continues⟩ := spelling_of_isName named
  intro d member
  rw [spelled] at member
  rcases List.mem_cons.mp member with rfl | inRest
  · exact continuesName_of_beginsName begins
  · exact continues d inRest

def Scans (text : List Char) (tokens : List Token) : Prop :=
  ∀ fuel position, text.length < fuel →
    scanFrom fuel position text = .ok (tokens ++ [.endOfInput])

namespace Scans

variable {text : List Char} {tokens : List Token}

theorem nil : Scans [] [] := by
  intro fuel position long
  obtain ⟨spent, rfl⟩ := Nat.exists_eq_succ_of_ne_zero (Nat.ne_of_gt long)
  rfl

theorem cons {c : Char} {rest : List Char} {token : Token} (noBlank : Text.isBlank c = false)
    (cut : ∀ position, ∃ after, lexeme position c rest = .ok ⟨token, after, text⟩)
    (shorter : text.length ≤ rest.length) (scans : Scans text tokens) :
    Scans (c :: rest) (token :: tokens) := by
  intro fuel position long
  obtain ⟨spent, rfl⟩ := Nat.exists_eq_succ_of_ne_zero (Nat.ne_of_gt (Nat.zero_lt_of_lt long))
  rw [List.length_cons] at long
  have dropped : (c :: rest).dropWhile Text.isBlank = c :: rest :=
    List.dropWhile_cons_of_neg (by simp [noBlank])
  obtain ⟨after, found⟩ := cut (position + byteLength ((c :: rest).takeWhile Text.isBlank))
  unfold scanFrom
  rw [dropped]
  dsimp only
  rw [found, Result.ok_bind, scans spent after (by omega)]
  rfl

theorem sign {c : Char} {token : Token} (isSign : single? c = some token)
    (noBlank : Text.isBlank c = false) (scans : Scans text tokens) :
    Scans (c :: text) (token :: tokens) := by
  refine cons noBlank ?_ (Nat.le_refl _) scans
  intro position
  refine ⟨position + 1, ?_⟩
  unfold lexeme
  rw [isSign]

theorem name {word : String} (named : isName word = true)
    (ends : ∀ c ∈ text.head?, continuesName c = false) (scans : Scans text tokens) :
    Scans (word.toList ++ text) (Token.ofWord word :: tokens) := by
  have taken := Text.takeWhile_ends (continues_of_isName named) ends
  have dropped := Text.dropWhile_ends (continues_of_isName named) ends
  obtain ⟨c, rest, spelled, begins, _⟩ := spelling_of_isName named
  rw [spelled, List.cons_append] at taken dropped ⊢
  refine cons (isBlank_of_beginsName begins) ?_ (by simp) scans
  intro position
  refine ⟨position + byteLength word.toList, ?_⟩
  have noQuote : ¬ (c = '\'' ∨ c = '"') := by
    rintro (quote | quote)
    · exact ne_of_beginsName begins (by decide +kernel) quote
    · exact ne_of_beginsName begins (by decide +kernel) quote
  unfold lexeme
  rw [single?_of_beginsName begins, double?_of_beginsName begins]
  dsimp only
  rw [if_neg noQuote, if_neg (by simp [isDigit_of_beginsName begins]), if_pos begins]
  unfold readName
  dsimp only
  rw [taken, dropped, ← spelled, String.ofList_toList]

end Scans

/-- A text in quotes in which nothing has to be escaped. -/
theorem readText_plain {quote : Char} {content : List Char}
    (plain : ∀ c ∈ content, c ≠ quote ∧ c ≠ '\\') (start position : Nat) (text : List Char) :
    ∃ after, readText quote start position (content ++ quote :: text) =
      .ok (content, after, text) := by
  induction content generalizing position with
  | nil =>
      refine ⟨position + quote.utf8Size, ?_⟩
      rw [List.nil_append, readText.eq_def]
      exact if_pos rfl
  | cons c rest ih =>
      obtain ⟨noQuote, noEscape⟩ := plain c List.mem_cons_self
      obtain ⟨after, read⟩ := ih (fun d member => plain d (List.mem_cons_of_mem c member))
        (position + c.utf8Size)
      refine ⟨after, ?_⟩
      rw [List.cons_append, readText.eq_def]
      dsimp only
      rw [if_neg noQuote, if_neg noEscape, read]
      rfl

theorem Scans.quoted {word : String} (named : isName word = true) {text : List Char}
    {tokens : List Token} (scans : Scans text tokens) :
    Scans ('\'' :: word.toList ++ '\'' :: text) (.text word :: tokens) := by
  have plain : ∀ c ∈ word.toList, c ≠ '\'' ∧ c ≠ '\\' := by
    intro c member
    have continues := continues_of_isName named c member
    refine ⟨?_, ?_⟩ <;>
      · rintro rfl
        exact absurd continues (by decide +kernel)
  rw [List.cons_append]
  refine cons (by decide) ?_ (by simp; omega) scans
  intro position
  obtain ⟨after, read⟩ := readText_plain plain position (position + 1) text
  refine ⟨after, ?_⟩
  unfold lexeme
  rw [show single? '\'' = none from rfl, show double? '\'' = none from rfl]
  dsimp only
  rw [if_pos (.inl rfl), read, Result.ok_bind, String.ofList_toList]

theorem scan_of_scans {text : String} {tokens : List Token} (scans : Scans text.toList tokens) :
    scan text = .ok (tokens ++ [.endOfInput]) :=
  scans _ 0 (Nat.lt_succ_self _)

end Expr

end StagedRuns
