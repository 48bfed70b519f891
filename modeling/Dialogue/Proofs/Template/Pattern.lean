import Dialogue.Template

/-!
# Patterns

A pattern is a text with holes for answers that are not known yet.  Templates can
be rendered with patterns in the place of values.  That gives a pattern again, and
it makes no difference whether its holes are filled before or after.
-/

namespace Dialogue

inductive Fragment where
  | literal (text : List Char)
  | answer (number : Nat)
  deriving DecidableEq, Repr

def Fragment.fill (answers : Nat → String) : Fragment → List Char
  | literal text => text
  | answer number => (answers number).toList

abbrev Pattern := List Fragment

namespace Pattern

def fill (answers : Nat → String) (pattern : Pattern) : String :=
  .ofList (pattern.flatMap (Fragment.fill answers))

@[simp] theorem fill_literal (answers : Nat → String) (text : String) :
    fill answers [.literal text.toList] = text := by
  simp [fill, Fragment.fill]

@[simp] theorem fill_answer (answers : Nat → String) (number : Nat) :
    fill answers [.answer number] = answers number := by
  simp [fill, Fragment.fill]

end Pattern

namespace Template

/-! ## Rendering without a look for braces -/

theorem hasBraces_of_placeholder? {text name rest : List Char}
    (found : placeholder? text = some (name, rest)) : hasBraces text := by
  rw [hasBraces, Text.occursIn_iff, placeholder?_append found]
  exact ⟨[], name ++ ['\x7d', '\x7d'] ++ rest, by simp [Piece.written]⟩

theorem pieces_of_not_hasBraces {text : List Char} (plain : ¬ hasBraces text) :
    pieces text = text.map .character := by
  fun_induction pieces text with
  | case1 _ _ _ found => exact (plain (hasBraces_of_placeholder? found)).elim
  | case2 => rfl
  | case3 c rest _ ih =>
      have later : ¬ hasBraces rest := by
        rw [hasBraces, Text.occursIn_iff] at plain ⊢
        exact fun braces => plain (braces.trans (List.suffix_cons c rest).isInfix)
      rw [ih later, List.map_cons]

theorem render_eq_pieces (bindings : Bindings) (template : String) :
    render bindings template =
      .ofList ((pieces template.toList).flatMap (Piece.rendered bindings)) := by
  unfold render
  split
  · rfl
  · rename_i plain
    rw [pieces_of_not_hasBraces plain, List.flatMap_map]
    have kept : (fun c => Piece.rendered bindings (.character c)) = fun c => [c] := rfl
    rw [kept, List.flatMap_singleton', String.ofList_toList]

/-! ## Rendering with patterns -/

def Piece.pattern (bindings : Std.ExtTreeMap String Pattern) : Piece → Pattern
  | character c => [.literal [c]]
  | placeholder name =>
      bindings[String.ofList name]?.getD [.literal (placeholder name).written]

def pattern (bindings : Std.ExtTreeMap String Pattern) (template : String) : Pattern :=
  (pieces template.toList).flatMap (Piece.pattern bindings)

def fillBindings (answers : Nat → String) (bindings : Std.ExtTreeMap String Pattern) :
    Bindings :=
  bindings.map fun _ pattern => pattern.fill answers

@[simp] theorem getElem?_fillBindings (answers : Nat → String)
    (bindings : Std.ExtTreeMap String Pattern) (name : String) :
    (fillBindings answers bindings)[name]? = bindings[name]?.map (Pattern.fill answers) :=
  Std.ExtTreeMap.getElem?_map

theorem fillBindings_insert (answers : Nat → String)
    (bindings : Std.ExtTreeMap String Pattern) (name : String) (value : Pattern) :
    fillBindings answers (bindings.insert name value) =
      (fillBindings answers bindings).insert name (value.fill answers) := by
  apply Std.ExtTreeMap.ext_getElem?
  intro key
  rw [getElem?_fillBindings, Std.ExtTreeMap.getElem?_insert, Std.ExtTreeMap.getElem?_insert,
    getElem?_fillBindings]
  split <;> rfl

theorem Piece.flatMap_fill_pattern (answers : Nat → String)
    (bindings : Std.ExtTreeMap String Pattern) (piece : Piece) :
    (piece.pattern bindings).flatMap (Fragment.fill answers) =
      piece.rendered (fillBindings answers bindings) := by
  cases piece with
  | character c => rfl
  | placeholder name =>
      rw [pattern, rendered, getElem?_fillBindings]
      cases bindings[String.ofList name]? with
      | none => simp [Fragment.fill]
      | some value => simp [Pattern.fill]

/-- A value is put in as it is, whatever answers it is made of: the template alone
says where the placeholders are. -/
theorem fill_pattern (answers : Nat → String) (bindings : Std.ExtTreeMap String Pattern)
    (template : String) :
    (pattern bindings template).fill answers =
      render (fillBindings answers bindings) template := by
  rw [render_eq_pieces, Pattern.fill, pattern, List.flatMap_assoc]
  simp only [Piece.flatMap_fill_pattern]

example : pattern ((∅ : Std.ExtTreeMap String Pattern).insert "a" [.answer 0])
    "\x7b\x7b\x7b\x7ba\x7d\x7d\x7d\x7d" =
      [.literal ['\x7b'], .literal ['\x7b'], .answer 0, .literal ['\x7d'], .literal ['\x7d']] := by
  decide +kernel

end Template

end Dialogue
