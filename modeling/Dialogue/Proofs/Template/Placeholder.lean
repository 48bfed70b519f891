import Dialogue.Proofs.Template.Pattern
import Dialogue.Proofs.Token.First

/-!
# Placeholders

A text begins with a placeholder exactly when it begins with a name between double
braces.  A template that is such a placeholder and nothing else renders to the value
of its name, whatever that value is.
-/

namespace Dialogue.Template

theorem placeholder?_eq_some_iff {text name rest : List Char} :
    placeholder? text = some (name, rest) ↔
      Name.IsName name ∧ text = (Piece.placeholder name).written ++ rest := by
  constructor
  · intro found
    refine ⟨?_, placeholder?_append found⟩
    unfold placeholder? at found
    split at found
    · split at found <;> cases found
      rename_i taken
      exact Name.take?_isName taken
    · cases found
  · rintro ⟨named, rfl⟩
    have outside : ∀ c ∈ ('\x7d' :: '\x7d' :: rest).head?, ¬ Name.isRest c := by
      intro c first
      cases first
      decide
    simp [Piece.written, placeholder?, Name.take?_name named outside]

theorem pieces_of_placeholder? {text name rest : List Char}
    (found : placeholder? text = some (name, rest)) :
    pieces text = .placeholder name :: pieces rest := by
  rw [pieces]
  split
  case h_1 name' rest' found' =>
    cases found.symm.trans found'
    rfl
  case h_2 missing => cases found.symm.trans missing

theorem pieces_nil : pieces [] = [] := by
  rw [pieces]
  rfl

theorem pieces_of_plain {c : Char} {rest : List Char}
    (plain : placeholder? (c :: rest) = none) :
    pieces (c :: rest) = .character c :: pieces rest := by
  rw [pieces]
  split
  case h_1 found => cases plain.symm.trans found
  case h_2 => rfl

def reference (name : String) : String :=
  "\x7b\x7b" ++ name ++ "\x7d\x7d"

theorem pieces_reference {name : String} (named : Name.IsName name.toList) :
    pieces (reference name).toList = [.placeholder name.toList] := by
  have written : (reference name).toList = (Piece.placeholder name.toList).written ++ [] := by
    simp [reference, Piece.written]
  rw [pieces_of_placeholder? (placeholder?_eq_some_iff.mpr ⟨named, written⟩), pieces_nil]

theorem render_reference {bindings : Bindings} {name value : String}
    (named : Name.IsName name.toList) (bound : bindings[name]? = some value) :
    render bindings (reference name) = value := by
  rw [render_eq_pieces, pieces_reference named]
  simp [Piece.rendered, bound]

end Dialogue.Template
