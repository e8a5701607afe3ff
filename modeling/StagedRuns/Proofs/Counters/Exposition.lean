import Mathlib.Data.List.Forall2
import Mathlib.Data.List.TakeWhile
import StagedRuns.Proofs.Json.Scalar
import StagedRuns.Proofs.Result
import StagedRuns.Proofs.Text.Cut

/-!
The text format in which metrics are exposed, as far as counters need it: lines with the type of a
metric, and samples of whole numbers under labels. The reader knows nothing of what writes the text.
-/

namespace StagedRuns

/-! ### The text format -/

namespace Exposition

structure Sample where
  metric : String
  labels : List (String × String)
  value : Nat
deriving DecidableEq, Repr

inductive Line where
  | type (metric kind : String)
  | value (sample : Sample)
deriving DecidableEq, Repr

namespace Line

def metric : Line → String
  | .type metric _ => metric
  | .value sample => sample.metric

def sample? : Line → Option Sample
  | .type _ _ => none
  | .value sample => some sample

end Line

def isGap (c : Char) : Bool :=
  c = ' ' || c = '\t'

def skipGap (text : List Char) : List Char :=
  text.dropWhile isGap

def isNameLetter (c : Char) : Bool :=
  c.isAlphanum || c = '_' || c = ':'

/-- The name that a text begins with, and what follows it. No name begins with a digit. -/
def readName? (text : List Char) : Option (String × List Char) :=
  let name := text.takeWhile isNameLetter
  if name.head?.any (!·.isDigit) then some (String.ofList name, text.dropWhile isNameLetter)
  else none

def readQuoted? : List Char → Option (List Char × List Char)
  | [] => none
  | '"' :: after => some ([], after)
  | '\\' :: 'n' :: after => (readQuoted? after).map (Prod.map ('\n' :: ·) id)
  | '\\' :: '\\' :: after => (readQuoted? after).map (Prod.map ('\\' :: ·) id)
  | '\\' :: '"' :: after => (readQuoted? after).map (Prod.map ('"' :: ·) id)
  | '\\' :: _ => none
  | c :: after => (readQuoted? after).map (Prod.map (c :: ·) id)

def passSign? (sign : Char) (text : List Char) : Option (List Char) :=
  match skipGap text with
  | [] => none
  | c :: after => if c = sign then some after else none

def readLabel? (text : List Char) : Option ((String × String) × List Char) := do
  let (name, after) ← readName? text
  let after ← passSign? '=' after
  let after ← passSign? '"' after
  let (value, after) ← readQuoted? after
  return ((name, String.ofList value), after)

def readLabels? : (most : Nat) → List Char → Option (List (String × String) × List Char)
  | 0, _ => none
  | most + 1, text =>
      match passSign? '\x7d' text with
      | some after => some ([], after)
      | none => do
          let (label, after) ← readLabel? (skipGap text)
          match passSign? ',' after with
          | some after => (readLabels? most after).map (Prod.map (label :: ·) id)
          | none => (passSign? '\x7d' after).map ([label], ·)

def readValue? (text : List Char) : Option Nat :=
  let digits := text.takeWhile Char.isDigit
  if digits ≠ [] ∧ skipGap (text.dropWhile Char.isDigit) = [] then
    some (Nat.ofDigitChars 10 digits 0)
  else none

def readSample? (text : List Char) : Option Sample := do
  let (metric, after) ← readName? text
  let (labels, after) ←
    match passSign? '\x7b' after with
    | some after => readLabels? (after.length + 1) after
    | none => some ([], after)
  let value ← readValue? (skipGap after)
  return ⟨metric, labels, value⟩

def words (text : List Char) : List String :=
  ((text.splitOnP isGap).filter (· ≠ [])).map String.ofList

def readLine? (line : List Char) : Option Line :=
  match skipGap line with
  | '#' :: after =>
      match words after with
      | ["TYPE", metric, kind] => some (.type metric kind)
      | _ => none
  | text => (readSample? text).map .value

/-- The lines of a text. The last one has to end like the others. -/
def read? (text : String) : Option (List Line) :=
  let pieces := text.toList.splitOn '\n'
  if pieces.getLast? = some [] then pieces.dropLast.mapM readLine? else none

/-! ### What is read of a text in parts -/

theorem skipGap_of_head {c : Char} (noGap : isGap c = false) (rest : List Char) :
    skipGap (c :: rest) = c :: rest :=
  List.dropWhile_cons_of_neg (by simp [noGap])

def isName (name : List Char) : Bool :=
  name.all isNameLetter && name.head?.any (!·.isDigit)

theorem readName?_append {name after : List Char} (named : isName name = true)
    (ends : ∀ c ∈ after.head?, isNameLetter c = false) :
    readName? (name ++ after) = some (String.ofList name, after) := by
  simp only [isName, Bool.and_eq_true, List.all_eq_true] at named
  obtain ⟨letters, begins⟩ := named
  unfold readName?
  rw [Text.takeWhile_ends letters ends, Text.dropWhile_ends letters ends]
  exact if_pos begins

theorem exists_of_isName {name : List Char} (named : isName name = true) :
    ∃ first rest, name = first :: rest ∧ isGap first = false ∧
      ∀ sign, isNameLetter sign = false → first ≠ sign := by
  cases name with
  | nil => cases named
  | cons first rest =>
      simp only [isName, Bool.and_eq_true, List.all_eq_true] at named
      have other : ∀ sign, isNameLetter sign = false → first ≠ sign := by
        rintro sign noLetter rfl
        simp [noLetter] at named
      have noGap : isGap first = false := by
        simp [isGap, other ' ' rfl, other '\t' rfl]
      exact ⟨first, rest, rfl, noGap, other⟩

theorem readQuoted?_append {text : List Char} (plain : ∀ c ∈ text, c ≠ '"' ∧ c ≠ '\\')
    (after : List Char) : readQuoted? (text ++ '"' :: after) = some (text, after) := by
  induction text with
  | nil => rfl
  | cons c rest ih =>
      rw [List.forall_mem_cons] at plain
      obtain ⟨⟨noQuote, noEscape⟩, restPlain⟩ := plain
      rw [List.cons_append, readQuoted?.eq_7 c _ noQuote (fun _ same _ => noEscape same)
        (fun _ same _ => noEscape same) (fun _ same _ => noEscape same) noEscape, ih restPlain]
      rfl

theorem passSign?_self {sign : Char} (noGap : isGap sign = false) (after : List Char) :
    passSign? sign (sign :: after) = some after := by
  unfold passSign?
  rw [skipGap_of_head noGap]
  exact if_pos rfl

theorem passSign?_other {sign c : Char} (noGap : isGap c = false) (other : c ≠ sign)
    (after : List Char) : passSign? sign (c :: after) = none := by
  unfold passSign?
  rw [skipGap_of_head noGap]
  exact if_neg other

theorem readLabel?_append {name value : List Char} (named : isName name = true)
    (plain : ∀ c ∈ value, c ≠ '"' ∧ c ≠ '\\') (after : List Char) :
    readLabel? (name ++ '=' :: '"' :: (value ++ '"' :: after)) =
      some ((String.ofList name, String.ofList value), after) := by
  unfold readLabel?
  rw [readName?_append named (by simp [isNameLetter])]
  simp only [Option.bind_eq_bind, Option.bind_some]
  rw [passSign?_self rfl, Option.bind_some, passSign?_self rfl, Option.bind_some,
    readQuoted?_append plain]
  rfl

theorem readLabels?_append {name value : List Char} (named : isName name = true)
    (plain : ∀ c ∈ value, c ≠ '"' ∧ c ≠ '\\') (after : List Char) (most : Nat) :
    readLabels? (most + 1) (name ++ '=' :: '"' :: (value ++ '"' :: '\x7d' :: after)) =
      some ([(String.ofList name, String.ofList value)], after) := by
  have label := readLabel?_append named plain ('\x7d' :: after)
  obtain ⟨first, rest, rfl, noGap, other⟩ := exists_of_isName named
  rw [List.cons_append] at label ⊢
  unfold readLabels?
  rw [passSign?_other noGap (other '\x7d' rfl), skipGap_of_head noGap, label]
  simp only [Option.bind_eq_bind, Option.bind_some]
  rw [passSign?_other rfl (by decide), passSign?_self rfl]
  rfl

theorem readValue?_toDigits (n : Nat) : readValue? (Nat.toDigits 10 n) = some n := by
  have taken : (Nat.toDigits 10 n).takeWhile Char.isDigit = Nat.toDigits 10 n :=
    List.takeWhile_eq_self_iff.mpr Json.isDigit_of_mem_toDigits
  have left : (Nat.toDigits 10 n).dropWhile Char.isDigit = [] :=
    List.dropWhile_eq_nil_iff.mpr Json.isDigit_of_mem_toDigits
  unfold readValue?
  dsimp only
  rw [taken, left, Nat.ofDigitChars_ten_toDigits]
  exact if_pos ⟨Nat.toDigits_ne_nil, rfl⟩

/-- A text is a whole line, and this is what it tells. -/
def Tells (text : String) (line : Line) : Prop :=
  ∃ written, text.toList = written ++ ['\n'] ∧ '\n' ∉ written ∧ readLine? written = some line

theorem splitOn_join {texts : List String} {lines : List Line}
    (told : List.Forall₂ Tells texts lines) :
    ∃ pieces, (String.join texts).toList.splitOn '\n' = pieces ++ [[]] ∧
      List.Forall₂ (readLine? · = some ·) pieces lines := by
  induction told with
  | nil => exact ⟨[], rfl, .nil⟩
  | @cons text line texts lines tells _ ih =>
      obtain ⟨written, same, whole, read⟩ := tells
      obtain ⟨pieces, split, reads⟩ := ih
      refine ⟨written :: pieces, ?_, .cons read reads⟩
      rw [String.join_cons, String.toList_append, same, List.append_assoc, List.singleton_append,
        List.splitOn_append_cons_self_of_not_mem whole, split, List.cons_append]

theorem read?_join {texts : List String} {lines : List Line}
    (told : List.Forall₂ Tells texts lines) : read? (String.join texts) = some lines := by
  obtain ⟨pieces, split, reads⟩ := splitOn_join told
  unfold read?
  dsimp only
  rw [split, List.getLast?_concat, List.dropLast_concat]
  exact (if_pos rfl).trans (Result.mapM_eq_some.mpr reads)

end Exposition

end StagedRuns
