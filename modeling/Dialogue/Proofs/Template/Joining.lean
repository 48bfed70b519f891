import Dialogue.Proofs.Template.Division

/-!
# Joined templates

Two texts are rendered together as they are rendered one after the other, if no
placeholder begins in the first and ends in the second.  None does where one of the two
characters that meet is no brace and belongs to no name.
-/

namespace Dialogue.Template

/-! ## Placeholders across a seam -/

/-- Every placeholder of the joined text lies in one of the two parts. -/
def Unsplit (before after : List Char) : Prop :=
  ∀ front name, Occurs (before ++ after) front name →
    front ++ braced name <+: before ∨ before <+: front

variable {before after : List Char}

theorem unsplit_nil : Unsplit [] after :=
  fun _ _ _ => .inr List.nil_prefix

theorem Unsplit.of_append {first : List Char} (unsplit : Unsplit (first ++ before) after) :
    Unsplit before after := by
  intro front name occurs
  have shifted : Occurs (first ++ before ++ after) (first ++ front) name := by
    rw [List.append_assoc]
    exact occurs_append_iff.mpr occurs
  have inside := unsplit _ _ shifted
  rwa [List.append_assoc, List.prefix_append_right_inj, List.prefix_append_right_inj] at inside

theorem unsplit_braced_append_iff {name : List Char} (named : Name.IsName name) :
    Unsplit (braced name ++ before) after ↔ Unsplit before after := by
  constructor
  · exact Unsplit.of_append
  · intro unsplit front other occurs
    rw [List.append_assoc, occurs_braced_append_iff named] at occurs
    rcases occurs with ⟨rfl, rfl⟩ | ⟨front, rfl, later⟩
    · exact .inl (List.prefix_append _ _)
    · rw [List.append_assoc, List.prefix_append_right_inj, List.prefix_append_right_inj]
      exact unsplit front other later

theorem unsplit_cons_iff {c : Char} (plain : placeholder? (c :: (before ++ after)) = none) :
    Unsplit (c :: before) after ↔ Unsplit before after := by
  constructor
  · intro (unsplit : Unsplit ([c] ++ before) after)
    exact unsplit.of_append
  · intro unsplit front name occurs
    obtain ⟨front, rfl, later⟩ := (occurs_cons_iff plain).mp occurs
    rw [List.cons_append, List.prefix_cons_inj, List.prefix_cons_inj]
    exact unsplit front name later

theorem not_unsplit_cons {c : Char} {name rest : List Char}
    (plain : placeholder? (c :: before) = none)
    (found : placeholder? (c :: (before ++ after)) = some (name, rest)) :
    ¬ Unsplit (c :: before) after := by
  intro unsplit
  have occurs : Occurs (c :: before ++ after) [] name := occurs_nil_iff.mpr ⟨rest, found⟩
  rcases unsplit [] name occurs with inside | behind
  · obtain ⟨_, found⟩ := occurs_nil_iff.mp ⟨occurs.1, inside⟩
    cases plain.symm.trans found
  · cases List.prefix_nil.mp behind

/-- A joined text has the pieces of its parts exactly if no placeholder is split. -/
theorem pieces_append_iff :
    pieces (before ++ after) = pieces before ++ pieces after ↔ Unsplit before after := by
  fun_induction pieces before with
  | case1 text name rest found ih =>
      obtain ⟨named, rfl⟩ := placeholder?_eq_some_iff.mp found
      have found' := placeholder?_braced named (rest ++ after)
      rw [← List.append_assoc] at found'
      change pieces (braced name ++ rest ++ after) = _ ↔ Unsplit (braced name ++ rest) after
      rw [pieces_of_placeholder? found', List.cons_append, List.cons_inj_right, ih,
        unsplit_braced_append_iff named]
  | case2 => simp [unsplit_nil]
  | case3 c rest plain ih =>
      rw [List.cons_append]
      cases found : placeholder? (c :: (rest ++ after)) with
      | none =>
          rw [pieces_of_plain found, List.cons_append, List.cons_inj_right, ih,
            unsplit_cons_iff found]
      | some taken =>
          rw [pieces_of_placeholder? found]
          simp [not_unsplit_cons plain found]

/-! ## Characters that meet at a seam -/

def inPlaceholder (c : Char) : Bool :=
  c == '\x7b' || c == '\x7d' || Name.isRest c

theorem inPlaceholder_of_mem_braced {name : List Char} (named : Name.IsName name) :
    ∀ c ∈ braced name, inPlaceholder c := by
  intro c member
  have part : c = '\x7b' ∨ c ∈ name ∨ c = '\x7d' := by
    simpa [braced] using member
  rcases part with rfl | inside | rfl
  · rfl
  · simp [inPlaceholder, Name.isRest_of_isName named c inside]
  · rfl

/-- Of the two characters that meet, one can stand in no placeholder.  Nothing is asked where
a text is empty. -/
def Separated (before after : List Char) : Prop :=
  ∀ c ∈ before.getLast?, ∀ d ∈ after.head?, ¬ inPlaceholder c ∨ ¬ inPlaceholder d

theorem Occurs.whole_or_across {front name : List Char}
    (occurs : Occurs (before ++ after) front name) :
    (front ++ braced name <+: before ∨ before <+: front) ∨
      ∃ c ∈ before.getLast?, ∃ d ∈ after.head?, c ∈ braced name ∧ d ∈ braced name := by
  obtain ⟨-, inside⟩ := occurs
  have begins : front <+: before ++ after := (List.prefix_append _ _).trans inside
  rcases List.prefix_or_prefix_of_prefix begins (List.prefix_append before after) with
    ⟨more, rfl⟩ | behind
  · rw [List.append_assoc, List.prefix_append_right_inj] at inside
    rcases List.prefix_or_prefix_of_prefix inside (List.prefix_append more after) with
      whole | ⟨ending, split⟩
    · exact .inl (.inl ((List.prefix_append_right_inj front).mpr whole))
    · rw [← split, List.prefix_append_right_inj] at inside
      rcases List.eq_nil_or_concat more with rfl | ⟨more, c, rfl⟩
      · exact .inl (.inr (by simp))
      · cases ending with
        | nil => exact .inl (.inl (by simp [← split]))
        | cons d ending =>
            obtain ⟨rest, rfl⟩ := inside
            exact .inr ⟨c, by simp, d, by simp, by simp [← split], by simp [← split]⟩
  · exact .inl (.inr behind)

theorem Separated.unsplit (separated : Separated before after) : Unsplit before after := by
  intro front name occurs
  rcases occurs.whole_or_across with whole | ⟨c, last, d, first, inside, inside'⟩
  · exact whole
  · rcases separated c last d first with outer | outer
    · exact (outer (inPlaceholder_of_mem_braced occurs.1 c inside)).elim
    · exact (outer (inPlaceholder_of_mem_braced occurs.1 d inside')).elim

/-! ## Rendering -/

/-- Where one of the characters that meet is neither a brace nor part of a name, or one of
the texts is empty, two texts are rendered together as they are rendered one after the
other.  It makes no difference which of them have double braces. -/
theorem render_append_of_separated (bindings : Bindings) {before after : String}
    (separated : Separated before.toList after.toList) :
    render bindings (before ++ after) = render bindings before ++ render bindings after := by
  have joined : pieces (before ++ after).toList = pieces before.toList ++ pieces after.toList := by
    rw [String.toList_append]
    exact pieces_append_iff.mpr separated.unsplit
  rw [render_eq_pieces, render_eq_pieces, render_eq_pieces, joined, List.flatMap_append,
    String.ofList_append]

theorem render_append_of_separated_blank :
    let bindings := (∅ : Bindings).insert "a" "\x7b\x7b"
    let before := "\x7b\x7ba\x7d\x7d\x7b\x7ba"
    let after := " \x7b\x7ba\x7d\x7da\x7d\x7d"
    Separated before.toList after.toList ∧
      render bindings (before ++ after) = render bindings before ++ render bindings after ∧
      render bindings before = "\x7b\x7b\x7b\x7ba" ∧
      render bindings after = " \x7b\x7ba\x7d\x7d" := by
  intro bindings before after
  have separated : Separated before.toList after.toList := by
    intro c last d first
    have blank : ' ' = d := by simpa [after] using first
    cases blank
    exact .inr (by decide)
  refine ⟨separated, render_append_of_separated bindings separated, ?_, ?_⟩
  · decide +kernel
  · decide +kernel

example :
    let bindings := (∅ : Bindings).insert "a" "b"
    render bindings ("\x7b\x7ba" ++ "\x7d\x7d") = "b" ∧
      render bindings "\x7b\x7ba" ++ render bindings "\x7d\x7d" = "\x7b\x7ba\x7d\x7d" := by
  decide +kernel

end Dialogue.Template
