/-!
# Names

A name is a letter or underscore followed by letters, digits or underscores,
all of them ASCII.  Scripts name what they store this way and placeholders refer
to it in the same way, so both readers share `Name.take?`.
-/

namespace Dialogue.Name

def isStart (c : Char) : Bool :=
  c.isAlpha || c == '_'

def isRest (c : Char) : Bool :=
  c.isAlphanum || c == '_'

def IsName : List Char → Prop
  | [] => False
  | first :: rest => isStart first ∧ ∀ c ∈ rest, isRest c

instance decidableIsName : DecidablePred IsName
  | [] => inferInstanceAs (Decidable False)
  | first :: rest =>
      inferInstanceAs (Decidable (isStart first ∧ ∀ c ∈ rest, isRest c))

def take? : List Char → Option (List Char × List Char)
  | [] => none
  | first :: rest =>
      if isStart first then
        some (first :: rest.takeWhile isRest, rest.dropWhile isRest)
      else
        none

theorem isRest_of_isStart {c : Char} (start : isStart c) : isRest c := by
  simp only [isStart, isRest, Char.isAlphanum, Bool.or_eq_true] at *
  exact start.imp_left .inl

theorem take?_append {text name rest : List Char}
    (taken : take? text = some (name, rest)) : text = name ++ rest := by
  cases text with
  | nil => simp [take?] at taken
  | cons first tail =>
      simp only [take?] at taken
      split at taken
      · cases taken
        simp
      · cases taken

theorem take?_length {text name rest : List Char}
    (taken : take? text = some (name, rest)) : rest.length < text.length := by
  cases text with
  | nil => simp [take?] at taken
  | cons first tail =>
      simp only [take?] at taken
      split at taken
      · cases taken
        exact Nat.lt_succ_of_le (List.dropWhile_sublist _).length_le
      · cases taken

theorem take?_isName {text name rest : List Char}
    (taken : take? text = some (name, rest)) : IsName name := by
  cases text with
  | nil => simp [take?] at taken
  | cons first tail =>
      simp only [take?] at taken
      split at taken
      · rename_i start
        cases taken
        exact ⟨start, fun c member => List.all_eq_true.mp List.all_takeWhile c member⟩
      · cases taken

end Dialogue.Name
