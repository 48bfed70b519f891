import Dialogue.Proofs.Token.Layout
import Dialogue.Proofs.Token.Lookahead

/-!
# White space and comments

A gap in front of a text makes no difference to the tokens behind it.  `Trivia` is a
piece of white space and whole comments: it is a gap wherever it stands, and other gaps
may be made longer with it.  Only behind the last token can a comment be open, and what
is put there ends it or becomes part of it.
-/

namespace Dialogue

/-- White space, and comments that end with a newline. -/
inductive Trivia : List Char → Prop
  | nil : Trivia []
  | space {c : Char} {text : List Char} : Rule.isSpace c → Trivia text → Trivia (c :: text)
  | comment {body text : List Char} : '\n' ∉ body → Trivia text →
      Trivia ('#' :: body ++ '\n' :: text)

namespace Gap

theorem of_visible {rest gap : List Char} (gap' : Gap rest gap) {c : Char}
    (front : rest.head? = some c) (visible : c ≠ '\n') (rest' : List Char) : Gap rest' gap := by
  induction gap' with
  | nil => exact .nil
  | space space _ ih => exact .space space ih
  | @comment body gap inline ends _ ih =>
      refine .comment inline ?_ ih
      cases gap with
      | nil => exact (visible (ends c front)).elim
      | cons d gap => exact ends

theorem append {rest first second : List Char} (one : Gap (second ++ rest) first)
    (other : Gap rest second) : Gap rest (first ++ second) := by
  induction one with
  | nil => exact other
  | space space _ ih => exact .space space ih
  | @comment body gap inline ends _ ih =>
      rw [List.append_assoc]
      exact .comment inline (by rwa [List.append_assoc]) ih

theorem delimits {lexicon : Lexicon} {rest gap : List Char} (gap' : Gap rest gap)
    (nonempty : gap ≠ []) : lexicon.Delimits (gap ++ rest) := by
  cases gap' with
  | nil => exact (nonempty rfl).elim
  | space space => exact Lexicon.delimits_of_isSpace space _
  | comment =>
      rintro _ ⟨⟩
      simp [Lexicon.continues, Name.isRest]

end Gap

namespace Trivia

theorem gap {text : List Char} (trivia : Trivia text) (rest : List Char) : Gap rest text := by
  induction trivia with
  | nil => exact .nil
  | space space _ ih => exact .space space ih
  | comment inline _ ih => exact .comment inline (by rintro _ ⟨⟩; rfl) (.space rfl ih)

theorem gap_comment {text : List Char} (trivia : Trivia text) {body : List Char}
    (inline : '\n' ∉ body) : Gap [] ('#' :: body ++ text) := by
  induction trivia generalizing body with
  | nil => exact .comment inline nofun .nil
  | @space c text space trivia ih =>
      by_cases newline : c = '\n'
      · subst newline
        exact .comment inline (by rintro _ ⟨⟩; rfl) (.space space (trivia.gap []))
      · have longer : Gap [] ('#' :: (body ++ [c]) ++ text) :=
          ih (by simp [inline, Ne.symm newline])
        simpa using longer
  | @comment body' text inline' trivia _ =>
      have longer : '\n' ∉ body ++ '#' :: body' := by simp [inline, inline']
      have whole : Gap [] ('#' :: (body ++ '#' :: body') ++ '\n' :: text) :=
        .comment longer (by rintro _ ⟨⟩; rfl) (.space rfl (trivia.gap []))
      simpa using whole

theorem gap_append {last text : List Char} (ending : Gap [] last) (trivia : Trivia text) :
    Gap [] (last ++ text) := by
  induction ending with
  | nil => exact trivia.gap []
  | space space _ ih => exact .space space ih
  | @comment body gap inline ends _ ih =>
      cases gap with
      | nil =>
          rw [List.append_nil]
          exact trivia.gap_comment inline
      | cons c gap =>
          rw [List.append_assoc]
          exact .comment inline ends ih

end Trivia

/-! ## Gaps and scans -/

section

variable {lexicon : Lexicon} {rest gap : List Char} {kinds : List TokenKind}

theorem ScansTo.of_space {c : Char} (space : Rule.isSpace c)
    (scans : ScansTo lexicon (c :: rest) kinds) : ScansTo lexicon rest kinds := by
  cases scans with
  | piece found onward =>
      rcases Bool.or_eq_true_iff.mp space with blank | newline
      · cases (Rule.first?_blank blank rest).symm.trans found
        have spaces : ∀ d ∈ rest.takeWhile Rule.isBlank, Rule.isSpace d := fun d member =>
          Rule.isSpace_of_isBlank (List.all_eq_true.mp List.all_takeWhile d member)
        have whole := onward.spaces spaces
        rwa [List.takeWhile_append_dropWhile] at whole
      · cases beq_iff_eq.mp newline
        cases (Rule.first?_newline rest).symm.trans found
        exact onward

theorem Rule.first?_comment_append {body : List Char} (inline : '\n' ∉ body)
    (ends : ∀ c ∈ rest.head?, c = '\n') :
    first? lexicon ('#' :: body ++ rest) = some ⟨none, '#' :: body, rest⟩ := by
  have inside : ∀ c ∈ body, (c != '\n') = true := by
    intro c member
    rw [bne_iff_ne]
    rintro rfl
    exact inline member
  have stop : ∀ c ∈ rest.head?, ¬ (c != '\n') = true := fun c front => by simp [ends c front]
  rw [List.cons_append, first?_comment, (span_append inside stop).1, (span_append inside stop).2]

theorem scansTo_gap_iff (gap' : Gap rest gap) :
    ScansTo lexicon (gap ++ rest) kinds ↔ ScansTo lexicon rest kinds := by
  induction gap' with
  | nil => rfl
  | space space _ ih => exact ⟨fun scans => ih.mp (scans.of_space space),
      fun scans => (ih.mpr scans).space space⟩
  | @comment body gap inline ends _ ih =>
      have taken : Rule.first? lexicon ('#' :: body ++ (gap ++ rest)) = _ :=
        Rule.first?_comment_append inline ends
      rw [List.append_assoc, ← ih]
      constructor
      · intro scans
        cases scans with
        | piece found onward =>
            cases taken.symm.trans found
            exact onward
      · intro scans
        exact .piece taken scans

end

end Dialogue
