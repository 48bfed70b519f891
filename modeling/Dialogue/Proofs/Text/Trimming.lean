import Dialogue.Text.Blank
import Mathlib.Data.List.DropRight

/-!
# Trimmed texts

A text is what trimming leaves of it, between blanks.  A word that begins and ends with
other characters is left of every text that has only blanks around it.
-/

namespace Dialogue.Text

def Blank (text : List Char) : Prop :=
  ∀ c ∈ text, whiteSpace.contains c

theorem exists_trimEnd (drop : Char → Bool) (text : List Char) :
    ∃ tail, text = trimEnd drop text ++ tail ∧ ∀ c ∈ tail, drop c := by
  refine ⟨text.rtakeWhile drop, ?_, fun c => List.mem_rtakeWhile_imp⟩
  exact List.rdropWhile_append_rtakeWhile.symm

theorem exists_trim (text : List Char) :
    ∃ front back, text = front ++ trim text ++ back ∧ Blank front ∧ Blank back := by
  obtain ⟨back, split, blank⟩ := exists_trimEnd whiteSpace.contains
    (text.dropWhile whiteSpace.contains)
  refine ⟨text.takeWhile whiteSpace.contains, back, ?_, fun c => List.mem_takeWhile_imp, blank⟩
  rw [List.append_assoc, trim, ← split, List.takeWhile_append_dropWhile]

theorem dropWhile_of_head {drop : Char → Bool} {text : List Char}
    (head : ∀ c ∈ text.head?, ¬ drop c) : text.dropWhile drop = text := by
  cases text with
  | nil => rfl
  | cons c rest => exact List.dropWhile_cons_of_neg (head c rfl)

theorem trimEnd_append {drop : Char → Bool} {text : List Char}
    (last : ∀ c ∈ text.getLast?, ¬ drop c) (back : List Char) :
    trimEnd drop (text ++ back) = text ++ trimEnd drop back := by
  have kept : text.reverse.dropWhile drop = text.reverse := by
    apply dropWhile_of_head
    rwa [List.head?_reverse]
  rw [trimEnd, trimEnd, List.reverse_append, List.dropWhile_append]
  split
  case isTrue gone => rw [kept, List.isEmpty_iff.mp gone, List.reverse_reverse]; simp
  case isFalse => rw [List.reverse_append, List.reverse_reverse]

theorem trim_append {front back word : List Char} (before : Blank front) (behind : Blank back)
    (some_char : word ≠ []) (head : ∀ c ∈ word.head?, ¬ whiteSpace.contains c)
    (last : ∀ c ∈ word.getLast?, ¬ whiteSpace.contains c) :
    trim (front ++ word ++ back) = word := by
  have begins : ∀ c ∈ (word ++ back).head?, ¬ whiteSpace.contains c := by
    rwa [List.head?_append_of_ne_nil word some_char]
  have nothing : trimEnd whiteSpace.contains back = [] :=
    List.rdropWhile_eq_nil_iff.mpr behind
  rw [trim, List.append_assoc, List.dropWhile_append_of_pos before, dropWhile_of_head begins,
    trimEnd_append last, nothing, List.append_nil]

end Dialogue.Text
