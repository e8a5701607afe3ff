import Mathlib.Data.List.Chain
import Mathlib.Data.List.Induction
import Mathlib.Data.Nat.Digits.Defs
import StagedRuns.Proofs.Expr.Scanning

/-!
Scanning undoes printing. Tokens are printed with the choices that there are: the quotes of a text,
the digits of a number, and the blanks before each token, which only a token that stands alone can do
without. Whatever is chosen, the text is cut into the tokens that were printed.
-/

namespace StagedRuns

/-! ### Characters between tokens -/

namespace Text

theorem isBlank_of_isNumeral {c : Char} (numeral : isNumeral c = true) : isBlank c = false := by
  have within : (digitRanges ++ numeralRanges).holds c = true := by
    unfold Ranges.holds
    rw [List.any_append, Bool.or_eq_true]
    exact (Bool.or_eq_true_iff.mp numeral).imp_left digitRanges_holds
  exact Ranges.not_holds_of_apart (by decide +kernel) within

end Text

namespace Expr

open StagedRuns.Number (Decimal)

/-- Whether a character goes on with no token that can be longer. -/
def divides (c : Char) : Bool :=
  !continuesName c && c ≠ '.' && c ≠ '='

theorem continuesName_of_divides {c : Char} (apart : divides c = true) :
    continuesName c = false := by
  simp only [divides, Bool.and_eq_true, Bool.not_eq_true'] at apart
  exact apart.1.1

theorem isDigit_of_divides {c : Char} (apart : divides c = true) : c.isDigit = false := by
  have ends := continuesName_of_divides apart
  simp only [continuesName, Text.isNumeral, Bool.or_eq_false_iff] at ends
  exact ends.1.2.1

theorem ne_of_divides {c : Char} (apart : divides c = true) : c ≠ '.' ∧ c ≠ '=' := by
  simp only [divides, Bool.and_eq_true, decide_eq_true_eq] at apart
  exact ⟨apart.1.2, apart.2⟩

theorem divides_of_isBlank {c : Char} (blank : Text.isBlank c = true) : divides c = true := by
  have ends : continuesName c = false := by
    rw [Bool.eq_false_iff]
    intro continues
    rcases Bool.or_eq_true_iff.mp continues with word | line
    · rcases Bool.or_eq_true_iff.mp word with letter | numeral
      · exact Bool.eq_false_iff.mp (Text.isBlank_of_isLetter letter) blank
      · exact Bool.eq_false_iff.mp (Text.isBlank_of_isNumeral numeral) blank
    · rw [of_decide_eq_true line] at blank
      exact absurd blank (by decide)
  have other : ∀ sign : Char, Text.isBlank sign = false → c ≠ sign := by
    rintro sign noBlank rfl
    exact Bool.eq_false_iff.mp noBlank blank
  simp [divides, ends, other '.' (by decide), other '=' (by decide)]

/-! ### Printed tokens -/

inductive Quote where
  | single
  | double
deriving DecidableEq, Repr

def Quote.mark : Quote → Char
  | .single => '\''
  | .double => '"'

def Quote.escape (quote : Quote) (content : List Char) : List Char :=
  content.flatMap fun c => if c = '\\' ∨ c = quote.mark then ['\\', c] else [c]

/-- A number in digits, perhaps with a point and digits behind it, of which there may be none. -/
structure DigitWord where
  whole : List (Fin 10)
  fraction : Option (List (Fin 10))
  occupied : whole ≠ []

namespace DigitWord

def digits (digits : List (Fin 10)) : List Char :=
  digits.map fun digit : Fin 10 => Nat.digitChar digit

def spelling (word : DigitWord) : List Char :=
  digits word.whole ++ word.fraction.elim [] fun fraction => '.' :: digits fraction

def decimal (word : DigitWord) : Decimal :=
  let fraction := word.fraction.getD []
  { digits := Nat.ofDigits 10 ((word.whole ++ fraction).reverse.map Fin.val)
    scale := -Int.ofNat fraction.length }

end DigitWord

def keywords : List String :=
  ["null", "true", "false", "in"]

def keywordTokens : List Token :=
  [.null, .true, .false, .within]

def operatorTokens : List Token :=
  [.equal, .unequal, .less, .atMost, .greater, .atLeast, .both, .either, .not, .dot]

def separateTokens : List Token :=
  [ .openParen, .closeParen, .openBracket, .closeBracket, .comma, .colon, .question
  , .plus, .minus, .star, .slash, .percent ]

/-- A token and the way it is printed in. -/
inductive Word where
  | name (word : String) (named : isName word = true) (free : word ∉ keywords)
  | text (quote : Quote) (content : String)
  | number (digits : DigitWord)
  | fixed (token : Token) (listed : token ∈ keywordTokens ++ operatorTokens ++ separateTokens)

namespace Word

def token : Word → Token
  | .name word _ _ => .name word
  | .text _ content => .text content
  | .number digits => .number digits.decimal
  | .fixed token _ => token

def spelling : Word → List Char
  | .name word _ _ => word.toList
  | .text quote content => quote.mark :: (quote.escape content.toList ++ [quote.mark])
  | .number digits => digits.spelling
  | .fixed token _ => token.words.toList

end Word

structure Printed where
  gap : List Char
  word : Word
  blank : gap.all Text.isBlank = true

theorem Printed.isBlank_of_mem (entry : Printed) : ∀ c ∈ entry.gap, Text.isBlank c = true :=
  List.all_eq_true.mp entry.blank

/-- Whether there are blanks between two words, or one of them needs none. -/
def Apart (earlier later : Printed) : Prop :=
  later.gap ≠ [] ∨ earlier.word.token ∈ separateTokens ∨ later.word.token ∈ separateTokens

instance (earlier later : Printed) : Decidable (Apart earlier later) :=
  inferInstanceAs (Decidable (_ ∨ _ ∨ _))

def print (entries : List Printed) : List Char :=
  entries.flatMap fun entry => entry.gap ++ entry.word.spelling

/-! ### Scanning one word -/

variable {after : List Char} {tokens : List Token}

namespace Scans

theorem blank {c : Char} (blank : Text.isBlank c = true) (scans : Scans after tokens) :
    Scans (c :: after) tokens := by
  intro fuel position long
  have shorter : after.length < fuel := Nat.lt_of_succ_lt long
  obtain ⟨spent, rfl⟩ := Nat.exists_eq_succ_of_ne_zero (Nat.ne_of_gt (Nat.zero_lt_of_lt shorter))
  rw [← scans (spent + 1) (position + c.utf8Size) shorter]
  have length (text : List Char) : position + byteLength (c :: text) =
      position + c.utf8Size + byteLength text := (Nat.add_assoc _ _ _).symm
  unfold scanFrom
  rw [List.dropWhile_cons_of_pos blank, List.takeWhile_cons_of_pos blank, length]

theorem gap {gap : List Char} (blanks : ∀ c ∈ gap, Text.isBlank c = true)
    (scans : Scans after tokens) : Scans (gap ++ after) tokens := by
  induction gap with
  | nil => exact scans
  | cons c rest ih =>
      obtain ⟨first, others⟩ := List.forall_mem_cons.mp blanks
      exact blank first (ih others)

theorem pair {c second : Char} {token : Token} {alone : Option Token}
    (isDouble : double? c = some (second, token, alone)) (noSingle : single? c = none)
    (noBlank : Text.isBlank c = false) (scans : Scans after tokens) :
    Scans (c :: second :: after) (token :: tokens) := by
  refine cons noBlank ?_ (Nat.le_succ _) scans
  intro position
  refine ⟨position + 2, ?_⟩
  unfold lexeme
  rw [noSingle, isDouble]
  exact if_pos rfl

/-- A character that is a token by itself unless an equals sign follows. -/
theorem alone {c : Char} {token whole : Token}
    (isDouble : double? c = some ('=', whole, some token)) (noSingle : single? c = none)
    (noBlank : Text.isBlank c = false) (ends : ∀ d ∈ after.head?, divides d = true)
    (scans : Scans after tokens) : Scans (c :: after) (token :: tokens) := by
  have other : after.head? ≠ some '=' := fun same => (ne_of_divides (ends '=' same)).2 rfl
  refine cons noBlank ?_ (Nat.le_refl _) scans
  intro position
  refine ⟨position + 1, ?_⟩
  unfold lexeme
  rw [noSingle, isDouble]
  exact if_neg other

end Scans

theorem unescape_mark (quote : Quote) {c : Char} (escaped : c = '\\' ∨ c = quote.mark) :
    unescape c = c := by
  rcases escaped with rfl | rfl
  · rfl
  · cases quote <;> rfl

theorem readText_escape (quote : Quote) (content : List Char) (start position : Nat) :
    ∃ place, readText quote.mark start position (quote.escape content ++ quote.mark :: after) =
      .ok (content, place, after) := by
  induction content generalizing position with
  | nil =>
      refine ⟨position + quote.mark.utf8Size, ?_⟩
      rw [Quote.escape, List.flatMap_nil, List.nil_append, readText.eq_def]
      exact if_pos rfl
  | cons c rest ih =>
      rw [Quote.escape, List.flatMap_cons, ← Quote.escape, List.append_assoc]
      by_cases escaped : c = '\\' ∨ c = quote.mark
      · obtain ⟨place, read⟩ := ih (position + 1 + c.utf8Size)
        have noQuote : '\\' ≠ quote.mark := by cases quote <;> decide
        refine ⟨place, ?_⟩
        rw [if_pos escaped, List.cons_append, List.cons_append, List.nil_append, readText.eq_def]
        dsimp only
        rw [if_neg noQuote, if_pos rfl, read, unescape_mark quote escaped]
        rfl
      · obtain ⟨place, read⟩ := ih (position + c.utf8Size)
        obtain ⟨noEscape, noQuote⟩ := not_or.mp escaped
        refine ⟨place, ?_⟩
        rw [if_neg escaped, List.cons_append, List.nil_append, readText.eq_def]
        dsimp only
        rw [if_neg noQuote, if_neg noEscape, read]
        rfl

theorem Scans.text (quote : Quote) (content : String) (scans : Scans after tokens) :
    Scans (quote.mark :: (quote.escape content.toList ++ quote.mark :: after))
      (.text content :: tokens) := by
  have marked : Text.isBlank quote.mark = false ∧ single? quote.mark = none ∧
      double? quote.mark = none ∧ (quote.mark = '\'' ∨ quote.mark = '"') := by
    cases quote <;> decide
  obtain ⟨noBlank, noSingle, noDouble, isQuote⟩ := marked
  refine cons noBlank ?_ (by simp; omega) scans
  intro position
  obtain ⟨place, read⟩ := readText_escape quote content.toList position (position + 1)
  refine ⟨place, ?_⟩
  unfold lexeme
  rw [noSingle, noDouble]
  dsimp only
  rw [if_pos isQuote, read, Result.ok_bind, String.ofList_toList]

theorem isDigit_digitChar : ∀ digit : Fin 10, (Nat.digitChar digit).isDigit = true ∧
    (Nat.digitChar digit).toNat - '0'.toNat = digit := by
  decide

theorem digitChar_begins : ∀ digit : Fin 10, Text.isBlank (Nat.digitChar digit) = false ∧
    single? (Nat.digitChar digit) = none ∧ double? (Nat.digitChar digit) = none ∧
      ¬ (Nat.digitChar digit = '\'' ∨ Nat.digitChar digit = '"') := by
  decide

theorem isDigit_of_mem_digits {digits : List (Fin 10)} :
    ∀ c ∈ DigitWord.digits digits, c.isDigit = true := by
  intro c member
  obtain ⟨digit, _, rfl⟩ := List.mem_map.mp member
  exact (isDigit_digitChar digit).1

theorem digitsValue_digits (digits : List (Fin 10)) :
    digitsValue (DigitWord.digits digits) = Nat.ofDigits 10 (digits.reverse.map Fin.val) := by
  induction digits using List.reverseRecOn with
  | nil => rfl
  | append_singleton before last ih =>
      unfold digitsValue DigitWord.digits at ih ⊢
      rw [List.map_append, List.foldl_append, ih, List.map_singleton, List.foldl_cons,
        List.foldl_nil, (isDigit_digitChar last).2, List.reverse_append, List.reverse_singleton,
        List.singleton_append, List.map_cons, Nat.ofDigits_cons]
      omega

theorem decimalOf_digits (whole fraction : List (Fin 10)) :
    decimalOf (DigitWord.digits whole) (DigitWord.digits fraction) =
      ⟨Nat.ofDigits 10 ((whole ++ fraction).reverse.map Fin.val), -Int.ofNat fraction.length⟩ := by
  have joined : DigitWord.digits whole ++ DigitWord.digits fraction =
      DigitWord.digits (whole ++ fraction) := by
    unfold DigitWord.digits
    exact List.map_append.symm
  rw [decimalOf, joined, digitsValue_digits, DigitWord.digits, List.length_map]

theorem readDecimal_digits (digits : DigitWord) (ends : ∀ c ∈ after.head?, divides c = true)
    (position : Nat) :
    ∃ place, readDecimal position (digits.spelling ++ after) =
      ⟨.number digits.decimal, place, after⟩ := by
  have noDigit : ∀ c ∈ after.head?, c.isDigit = false :=
    fun c first => isDigit_of_divides (ends c first)
  obtain ⟨whole, fraction, _⟩ := digits
  unfold DigitWord.spelling DigitWord.decimal readDecimal
  cases fraction with
  | none =>
      refine ⟨position + (DigitWord.digits whole).length, ?_⟩
      simp only [Option.elim_none, List.append_nil, Option.getD_none,
        Text.takeWhile_ends isDigit_of_mem_digits noDigit,
        Text.dropWhile_ends isDigit_of_mem_digits noDigit]
      have value := decimalOf_digits whole []
      rw [List.append_nil] at value
      split
      · exact absurd rfl (ne_of_divides (ends '.' rfl)).1
      · rw [← value]
        rfl
  | some fraction =>
      refine ⟨position + (DigitWord.digits whole).length + 1 +
        (DigitWord.digits fraction).length, ?_⟩
      have point : ∀ c ∈ ('.' :: (DigitWord.digits fraction ++ after)).head?,
          c.isDigit = false := by
        intro c first
        cases first
        rfl
      simp only [Option.elim_some, List.append_assoc, List.cons_append, Option.getD_some,
        Text.takeWhile_ends isDigit_of_mem_digits point,
        Text.dropWhile_ends isDigit_of_mem_digits point,
        Text.takeWhile_ends isDigit_of_mem_digits noDigit,
        Text.dropWhile_ends isDigit_of_mem_digits noDigit, decimalOf_digits]

theorem Scans.number (digits : DigitWord) (ends : ∀ c ∈ after.head?, divides c = true)
    (scans : Scans after tokens) :
    Scans (digits.spelling ++ after) (.number digits.decimal :: tokens) := by
  have read := readDecimal_digits digits ends
  obtain ⟨digit, others, same⟩ := List.exists_cons_of_ne_nil digits.occupied
  obtain ⟨rest, spelled⟩ : ∃ rest, digits.spelling = Nat.digitChar digit :: rest := by
    rw [DigitWord.spelling, same]
    exact ⟨_, rfl⟩
  obtain ⟨noBlank, noSingle, noDouble, noQuote⟩ := digitChar_begins digit
  rw [spelled, List.cons_append] at read ⊢
  refine cons noBlank ?_ (by simp) scans
  intro position
  obtain ⟨place, found⟩ := read position
  refine ⟨place, ?_⟩
  unfold lexeme
  rw [noSingle, noDouble]
  dsimp only
  rw [if_neg noQuote, if_pos (isDigit_digitChar digit).1, found]

theorem Token.ofWord_of_free {word : String} (free : word ∉ keywords) :
    Token.ofWord word = .name word := by
  simp only [keywords, List.mem_cons, List.not_mem_nil, or_false, not_or] at free
  obtain ⟨notNull, notTrue, notFalse, notIn⟩ := free
  unfold Token.ofWord
  rw [if_neg notNull, if_neg notTrue, if_neg notFalse, if_neg notIn]

theorem keywordTokens_words : ∀ token ∈ keywordTokens,
    isName token.words = true ∧ Token.ofWord token.words = token := by
  decide +kernel

theorem separateTokens_words (token : Token) (listed : token ∈ separateTokens) :
    ∃ c, token.words.toList = [c] ∧ single? c = some token ∧ Text.isBlank c = false ∧
      divides c = true := by
  have each : (separateTokens.all fun token => "()[],:?+-*/%".toList.any fun c =>
      token.words.toList = [c] ∧ single? c = some token ∧ Text.isBlank c = false ∧
        divides c = true) = true := by
    decide +kernel
  obtain ⟨c, _, facts⟩ := List.any_eq_true.mp (List.all_eq_true.mp each token listed)
  exact ⟨c, of_decide_eq_true facts⟩

theorem Scans.operator {token : Token} (listed : token ∈ operatorTokens)
    (ends : ∀ c ∈ after.head?, divides c = true) (scans : Scans after tokens) :
    Scans (token.words.toList ++ after) (token :: tokens) := by
  simp only [operatorTokens, List.mem_cons, List.not_mem_nil, or_false] at listed
  rcases listed with rfl | rfl | rfl | rfl | rfl | rfl | rfl | rfl | rfl | rfl
  · exact pair rfl rfl (by decide) scans
  · exact pair rfl rfl (by decide) scans
  · exact alone rfl rfl (by decide) ends scans
  · exact pair rfl rfl (by decide) scans
  · exact alone rfl rfl (by decide) ends scans
  · exact pair rfl rfl (by decide) scans
  · exact pair rfl rfl (by decide) scans
  · exact pair rfl rfl (by decide) scans
  · exact alone rfl rfl (by decide) ends scans
  · exact sign rfl (by decide) scans

theorem Word.scans (word : Word)
    (ends : word.token ∈ separateTokens ∨ ∀ c ∈ after.head?, divides c = true)
    (scans : Scans after tokens) : Scans (word.spelling ++ after) (word.token :: tokens) := by
  cases word with
  | name word named free =>
      have divided := ends.resolve_left (by simp [token, separateTokens])
      have found := Scans.name named
        (fun c first => continuesName_of_divides (divided c first)) scans
      rwa [Token.ofWord_of_free free] at found
  | text quote content =>
      have found := Scans.text quote content scans
      rwa [spelling, List.cons_append, List.append_assoc]
  | number digits => exact .number digits (ends.resolve_left (by simp [token, separateTokens])) scans
  | fixed token listed =>
      by_cases separate : token ∈ separateTokens
      · obtain ⟨c, spelled, isSingle, noBlank, _⟩ := separateTokens_words token separate
        rw [spelling, spelled]
        exact .sign isSingle noBlank scans
      · have divided := ends.resolve_left separate
        rcases List.mem_append.mp listed with either | last
        · rcases List.mem_append.mp either with keyword | operator
          · obtain ⟨named, same⟩ := keywordTokens_words token keyword
            have found := Scans.name named
              (fun c first => continuesName_of_divides (divided c first)) scans
            rwa [same] at found
          · exact .operator operator divided scans
        · exact absurd last separate

theorem Word.divides_of_separate {word : Word} (separate : word.token ∈ separateTokens) :
    ∀ c ∈ (word.spelling ++ after).head?, divides c = true := by
  cases word with
  | name | text | number => simp [token, separateTokens] at separate
  | fixed token listed =>
      obtain ⟨c, spelled, _, _, divided⟩ := separateTokens_words token separate
      intro d first
      rw [spelling, spelled] at first
      cases first
      exact divided

/-! ### Scanning what is printed -/

/-- A word ends where the next one begins, if the two are apart. -/
theorem Apart.ends {earlier later : Printed} (apart : Apart earlier later) :
    earlier.word.token ∈ separateTokens ∨
      ∀ c ∈ (later.gap ++ (later.word.spelling ++ after)).head?, divides c = true := by
  cases gap : later.gap with
  | nil =>
      rcases apart with occupied | separate | separate
      · exact absurd gap occupied
      · exact .inl separate
      · exact .inr (Word.divides_of_separate separate)
  | cons c rest =>
      refine .inr fun d first => ?_
      cases first
      exact divides_of_isBlank (later.isBlank_of_mem c (gap ▸ List.mem_cons_self))

theorem scans_print {entries : List Printed} (apart : entries.IsChain Apart) :
    Scans (print entries) (entries.map (·.word.token)) := by
  induction apart with
  | nil => exact .nil
  | singleton entry =>
      have last : Scans [] [] := .nil
      have scans := Scans.gap entry.isBlank_of_mem (entry.word.scans (.inr (by simp)) last)
      rwa [print, List.flatMap_cons, List.flatMap_nil, List.append_assoc]
  | @cons_cons earlier later others related _ ih =>
      rw [print, List.flatMap_cons, ← print, List.append_assoc, List.map_cons]
      refine .gap earlier.isBlank_of_mem (earlier.word.scans ?_ ih)
      rw [print, List.flatMap_cons, List.append_assoc]
      exact related.ends

/-- Words with blanks between them, or without any where one of two neighbours is a separate token,
are scanned as their tokens and the end of the input. -/
theorem scan_print {entries : List Printed} (apart : entries.IsChain Apart) :
    scan (String.ofList (print entries)) =
      .ok (entries.map (·.word.token) ++ [.endOfInput]) := by
  refine scan_of_scans ?_
  rw [String.toList_ofList]
  exact scans_print apart

def printedComparison : List Printed :=
  [ ⟨[], .name "größe" (by decide +kernel) (by decide), by decide⟩
  , ⟨[' '], .fixed .atMost (by decide), by decide⟩
  , ⟨['\n', '\t'], .number ⟨[0, 7], some [], by decide⟩, by decide⟩
  , ⟨['\u00A0'], .fixed .within (by decide), by decide⟩
  , ⟨[], .fixed .openBracket (by decide), by decide⟩
  , ⟨[], .text .single "it's\\n", by decide⟩
  , ⟨[], .fixed .comma (by decide), by decide⟩
  , ⟨['\u2003'], .text .double "'", by decide⟩
  , ⟨[], .fixed .closeBracket (by decide), by decide⟩ ]

theorem printedComparison_scanned :
    printedComparison.IsChain Apart ∧
      String.ofList (print printedComparison) =
        "größe <=\n\t07.\u00A0in['it\\'s\\\\n',\u2003\"'\"]" ∧
      scan "größe <=\n\t07.\u00A0in['it\\'s\\\\n',\u2003\"'\"]" =
        .ok [.name "größe", .atMost, .number ⟨7, 0⟩, .within, .openBracket, .text "it's\\n",
          .comma, .text "'", .closeBracket, .endOfInput] := by
  have apart : printedComparison.IsChain Apart := by decide
  have printed : String.ofList (print printedComparison) =
      "größe <=\n\t07.\u00A0in['it\\'s\\\\n',\u2003\"'\"]" := by
    decide +kernel
  refine ⟨apart, printed, ?_⟩
  rw [← printed]
  exact scan_print apart

end Expr

end StagedRuns
