import Dialogue.Proofs.Script.Course
import Dialogue.Script.Reader

/-!
# How a reading ends

A reading ends in one of four ways: with the brace of the bot block, where the tokens
end, at a token that the grammar does not allow, or at a token that makes two headings
equal.  `Stage.Verdict` tells them apart by the course of the tokens before, and each
of them can be read off the answer.
-/

namespace Dialogue

namespace Stage

/-- The ways in which the reading of tokens from a stage can end. -/
inductive Verdict (outer : List OpenBlock) (stage : Stage) (tokens : List Token) :
    Except Error Bot → Prop
  | accepted {draft : BotDraft} :
      stage.follow? tokens = some (closed draft) → draft.headings.Nodup →
        Verdict outer stage tokens (.ok draft.toScript.toBot)
  | exhausted {later : Stage} :
      stage.follow? tokens = some later → later.headings.Nodup →
      (∀ draft, later ≠ closed draft) →
        Verdict outer stage tokens (.error (later.endError (later.openBlocks ++ outer)))
  | refused {front rest : List Token} {token : Token} {later : Stage} :
      tokens = front ++ token :: rest → stage.follow? front = some later →
      later.headings.Nodup → later.next? token = none →
        Verdict outer stage tokens (.error (.token token.position later.slot token.kind))
  | conflicting {front rest : List Token} {token : Token} {before later : Stage}
      {conflict : Conflict} :
      tokens = front ++ token :: rest → stage.follow? front = some before →
      before.headings.Nodup → before.next? token = some later →
      later.conflict? = some conflict →
        Verdict outer stage tokens (.error conflict.error)

theorem readOn_append_of_follow? (outer : List OpenBlock) {stage later : Stage}
    {front : List Token} (read : stage.follow? front = some later)
    (differ : later.headings.Nodup) (rest : List Token) :
    stage.readOn outer (front ++ rest) = later.readOn outer rest := by
  induction front generalizing stage with
  | nil =>
      cases read
      rfl
  | cons token front ih =>
      obtain ⟨next, step, onward⟩ := Option.bind_eq_some_iff.mp read
      have unequal : next.headings.Nodup :=
        differ.sublist (headings_suffix_of_follow? onward).sublist
      have unequal' : stage.headings.Nodup :=
        unequal.sublist (headings_suffix_of_next? step).sublist
      have calm := (conflict?_eq_none_iff step unequal').mpr unequal
      rw [List.cons_append, readOn, step]
      simp only [calm]
      exact ih onward

variable {outer : List OpenBlock} {stage : Stage} {tokens : List Token}
  {answer : Except Error Bot}

theorem Verdict.cons {later : Stage} {token : Token} (step : stage.next? token = some later)
    (verdict : Verdict outer later tokens answer) :
    Verdict outer stage (token :: tokens) answer := by
  cases verdict with
  | accepted read differ => exact .accepted ((follow?_cons_of_next? step _).trans read) differ
  | exhausted read differ unfinished =>
      exact .exhausted ((follow?_cons_of_next? step _).trans read) differ unfinished
  | @refused front _ _ _ split read differ refused =>
      subst split
      have whole := (follow?_cons_of_next? step front).trans read
      exact .refused List.cons_append.symm whole differ refused
  | @conflicting front _ _ _ _ _ split read differ step' clash =>
      subst split
      have whole := (follow?_cons_of_next? step front).trans read
      exact .conflicting List.cons_append.symm whole differ step' clash

theorem verdict_readOn (outer : List OpenBlock) (tokens : List Token)
    (differ : stage.headings.Nodup) : Verdict outer stage tokens (stage.readOn outer tokens).1 := by
  fun_induction readOn outer stage tokens with
  | case1 draft => exact .accepted rfl differ
  | case2 stage unfinished => exact .exhausted rfl differ unfinished
  | case3 stage token rest refused => exact .refused (List.nil_append _).symm rfl differ refused
  | case4 stage token rest later step calm ih =>
      exact (ih ((conflict?_eq_none_iff step differ).mp calm)).cons step
  | case5 stage token rest later step conflict clash =>
      exact .conflicting (List.nil_append _).symm rfl differ step clash

theorem Verdict.answer_eq (verdict : Verdict outer stage tokens answer) :
    (stage.readOn outer tokens).1 = answer := by
  cases verdict with
  | accepted read differ =>
      rw [← List.append_nil tokens, readOn_append_of_follow? outer read differ]
      rfl
  | exhausted read differ unfinished =>
      rw [← List.append_nil tokens, readOn_append_of_follow? outer read differ,
        readOn.eq_2 outer _ unfinished]
  | refused split read differ refused =>
      rw [split, readOn_append_of_follow? outer read differ, readOn, refused]
  | conflicting split read differ step clash =>
      rw [split, readOn_append_of_follow? outer read differ, readOn, step]
      simp only [clash]

theorem Verdict.error_cases {error : Error} (verdict : Verdict outer stage tokens (.error error)) :
    (∃ later, stage.follow? tokens = some later ∧ later.headings.Nodup ∧
      (∀ draft, later ≠ closed draft) ∧ error = later.endError (later.openBlocks ++ outer)) ∨
    (∃ front token rest later, tokens = front ++ token :: rest ∧
      stage.follow? front = some later ∧ later.headings.Nodup ∧ later.next? token = none ∧
      error = .token token.position later.slot token.kind) ∨
    (∃ front token rest before later conflict, tokens = front ++ token :: rest ∧
      stage.follow? front = some before ∧ before.headings.Nodup ∧
      before.next? token = some later ∧ later.conflict? = some conflict ∧
      error = conflict.error) := by
  generalize same : Except.error error = answer at verdict
  cases verdict with
  | accepted => cases same
  | exhausted read differ unfinished =>
      exact .inl ⟨_, read, differ, unfinished, Except.error.inj same⟩
  | refused split read differ refused =>
      exact .inr (.inl ⟨_, _, _, _, split, read, differ, refused, Except.error.inj same⟩)
  | conflicting split read differ step clash =>
      exact .inr (.inr ⟨_, _, _, _, _, _, split, read, differ, step, clash, Except.error.inj same⟩)

theorem endError_ne_token {stage : Stage} {opened : List OpenBlock} {place : Position}
    {slot : Slot} {found : TokenKind} : stage.endError opened ≠ .token place slot found := by
  cases opened <;> rintro ⟨⟩

theorem readOn_eq_iff_verdict (differ : stage.headings.Nodup) :
    (stage.readOn outer tokens).1 = answer ↔ Verdict outer stage tokens answer := by
  constructor
  · rintro rfl
    exact verdict_readOn outer tokens differ
  · exact Verdict.answer_eq

end Stage

theorem Bot.ofTokens_eq_iff_verdict (tokens : List Token) (answer : Except Error Bot) :
    Bot.ofTokens tokens = answer ↔ Stage.start.Verdict [] tokens answer :=
  Stage.readOn_eq_iff_verdict List.nodup_nil

end Dialogue
