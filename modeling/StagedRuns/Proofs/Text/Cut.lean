import Mathlib.Data.List.TakeWhile

/-!
Texts that are cut where a character ends what comes before it: the first part is the same whatever
follows that character.
-/

namespace StagedRuns.Text

variable {p : Char → Bool}

/-! ### Where a part ends -/

section

variable {text after : List Char} (goesOn : ∀ c ∈ text, p c = true)
  (ends : ∀ c ∈ after.head?, p c = false)

include goesOn ends

theorem takeWhile_ends : (text ++ after).takeWhile p = text := by
  rw [List.takeWhile_append_of_pos goesOn]
  cases after with
  | nil => rw [List.takeWhile_nil, List.append_nil]
  | cons c rest =>
      rw [List.takeWhile_cons_of_neg (Bool.eq_false_iff.mp (ends c rfl)), List.append_nil]

theorem dropWhile_ends : (text ++ after).dropWhile p = after := by
  rw [List.dropWhile_append_of_pos goesOn]
  cases after with
  | nil => rfl
  | cons c rest => exact List.dropWhile_cons_of_neg (Bool.eq_false_iff.mp (ends c rfl))

end

/-! ### A character that ends parts -/

section

variable {stop : Char} (stops : p stop = false) (text more : List Char)

include stops

theorem takeWhile_stop : (text ++ stop :: more).takeWhile p = text.takeWhile p := by
  induction text with
  | nil => exact List.takeWhile_cons_of_neg (Bool.eq_false_iff.mp stops)
  | cons c rest ih =>
      rw [List.cons_append, List.takeWhile_cons, List.takeWhile_cons, ih]

theorem dropWhile_stop :
    (text ++ stop :: more).dropWhile p = text.dropWhile p ++ stop :: more := by
  induction text with
  | nil => exact List.dropWhile_cons_of_neg (Bool.eq_false_iff.mp stops)
  | cons c rest ih =>
      rw [List.cons_append, List.dropWhile_cons, List.dropWhile_cons, ih]
      split <;> rfl

end

theorem cut_append {text after : List Char} {stop : Char}
    (found : text.dropWhile p = stop :: after) (more : List Char) :
    (text ++ more).takeWhile p = text.takeWhile p ∧
      (text ++ more).dropWhile p = stop :: (after ++ more) := by
  induction text with
  | nil => cases found
  | cons c rest ih =>
      rw [List.dropWhile_cons] at found
      rw [List.cons_append, List.takeWhile_cons, List.takeWhile_cons, List.dropWhile_cons]
      split at found
      · rename_i keeps
        rw [if_pos keeps, if_pos keeps, if_pos keeps, (ih found).1]
        exact ⟨rfl, (ih found).2⟩
      · rename_i ends
        cases found
        rw [if_neg ends, if_neg ends, if_neg ends]
        exact ⟨rfl, rfl⟩

theorem mem_dropWhile {text : List Char} {c : Char} (member : c ∈ text) (ends : p c = false) :
    c ∈ text.dropWhile p := by
  rw [← List.takeWhile_append_dropWhile (p := p) (l := text)] at member
  refine (List.mem_append.mp member).resolve_left fun taken => ?_
  have goesOn := List.mem_takeWhile_imp taken
  rw [ends] at goesOn
  cases goesOn

end StagedRuns.Text
