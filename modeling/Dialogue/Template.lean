import Dialogue.Name
import Dialogue.Text.Search
import Std.Data.ExtTreeMap

/-!
# Templates

A placeholder is a name in double braces.  `Template.pieces` finds the
placeholders of a text from left to right in one pass; rendering puts in the
values of those that are bound.  A value is never searched again, and an unbound
placeholder stays as it is written.
-/

namespace Dialogue

abbrev Bindings := Std.ExtTreeMap String String

namespace Template

inductive Piece where
  | character (c : Char)
  | placeholder (name : List Char)
  deriving DecidableEq, Repr

namespace Piece

def written : Piece → List Char
  | character c => [c]
  | placeholder name => ['\x7b', '\x7b'] ++ name ++ ['\x7d', '\x7d']

def rendered (bindings : Bindings) : Piece → List Char
  | character c => [c]
  | placeholder name =>
      match bindings[String.ofList name]? with
      | some value => value.toList
      | none => (placeholder name).written

end Piece

def placeholder? : List Char → Option (List Char × List Char)
  | '\x7b' :: '\x7b' :: text =>
      match Name.take? text with
      | some (name, '\x7d' :: '\x7d' :: rest) => some (name, rest)
      | _ => none
  | _ => none

theorem placeholder?_append {text name rest : List Char}
    (found : placeholder? text = some (name, rest)) :
    text = (Piece.placeholder name).written ++ rest := by
  unfold placeholder? at found
  split at found
  · split at found <;> cases found
    rename_i taken
    simp [Piece.written, Name.take?_append taken]
  · cases found

theorem placeholder?_length {text name rest : List Char}
    (found : placeholder? text = some (name, rest)) : rest.length < text.length := by
  rw [placeholder?_append found]
  simp [Piece.written]
  omega

/-- A template as its placeholders and the characters between them. -/
def pieces (text : List Char) : List Piece :=
  match _ : placeholder? text with
  | some (name, rest) => .placeholder name :: pieces rest
  | none =>
      match text with
      | [] => []
      | c :: rest => .character c :: pieces rest
termination_by text.length
decreasing_by
  · exact placeholder?_length ‹_›
  · simp

def hasBraces (text : List Char) : Bool :=
  Text.occursIn ['\x7b', '\x7b'] text

/-- A template with the values of its bound placeholders put in.  One without
double braces is its own rendering. -/
def render (bindings : Bindings) (template : String) : String :=
  if hasBraces template.toList then
    .ofList ((pieces template.toList).flatMap (Piece.rendered bindings))
  else
    template

end Template

end Dialogue
