import Dialogue.Proofs.Script.Viable

/-!
# A closing brace that is left out

Every right brace of a script closes the bot block or one of the inner blocks.  Without
the brace of the bot block, or of the inner block before it, one brace too few is left
at the end, and the bot block is unterminated.  Without any other brace the keyword of
the next inner block stands where a statement is expected.
-/

namespace Dialogue

/-! ## The right braces of a script -/

theorem Section.rightBrace_not_mem_unclosed (part : Section) : .rightBrace ∉ part.unclosed := by
  have statement (action : Action) : .rightBrace ∉ action.kinds := by
    cases action with
    | set name value => cases value <;> simp [Action.kinds, SetValue.kind]
    | _ => simp [Action.kinds]
  obtain ⟨heading, actions⟩ := part
  cases heading <;> simp [Section.unclosed, Heading.kinds, statement]

theorem exists_more_of_not_mem {plain rest before after : List TokenKind}
    (free : .rightBrace ∉ plain) (split : plain ++ rest = before ++ .rightBrace :: after) :
    ∃ more, before = plain ++ more ∧ rest = more ++ .rightBrace :: after := by
  rcases List.append_eq_append_iff.mp split with ⟨more, rfl, onward⟩ | ⟨more, rfl, onward⟩
  · exact ⟨more, rfl, onward⟩
  · cases more with
    | nil => exact ⟨[], by simp, onward.symm⟩
    | cons kind more =>
        obtain ⟨rfl, -⟩ := List.cons.inj onward
        exact (free (by simp)).elim

/-- A right brace among inner blocks closes one of them, or it stands behind all of them. -/
theorem Section.rightBrace_cases {sections : List Section} {before after : List TokenKind}
    (split : sections.flatMap Section.kinds ++ [.rightBrace] = before ++ .rightBrace :: after) :
    (before = sections.flatMap Section.kinds ∧ after = []) ∨
    ∃ earlier part later, sections = earlier ++ part :: later ∧
      before = earlier.flatMap Section.kinds ++ part.unclosed ∧
      after = later.flatMap Section.kinds ++ [.rightBrace] := by
  induction sections generalizing before with
  | nil =>
      left
      cases before with
      | nil => simpa [eq_comm] using split
      | cons => simp at split
  | cons part sections ih =>
      rw [List.flatMap_cons, part.kinds_eq_unclosed, List.append_assoc, List.append_assoc] at split
      obtain ⟨more, rfl, onward⟩ := exists_more_of_not_mem part.rightBrace_not_mem_unclosed split
      rw [List.singleton_append] at onward
      cases more with
      | nil =>
          cases onward
          exact .inr ⟨[], part, sections, rfl, List.append_nil _, rfl⟩
      | cons kind more =>
          rw [List.cons_append, List.cons.injEq] at onward
          obtain ⟨rfl, onward⟩ := onward
          rcases ih onward with ⟨rfl, rfl⟩ | ⟨earlier, other, later, rfl, rfl, rfl⟩
          · exact .inl ⟨by simp [part.kinds_eq_unclosed], rfl⟩
          · exact .inr ⟨part :: earlier, other, later, rfl, by simp [part.kinds_eq_unclosed], rfl⟩

namespace Script

theorem rightBrace_cases {script : Script} {before after : List TokenKind}
    (split : script.kinds = before ++ .rightBrace :: after) :
    (before = opening script.name script.sections ∧ after = []) ∨
    ∃ earlier part later, script.sections = earlier ++ part :: later ∧
      before = opening script.name earlier ++ part.unclosed ∧
      after = later.flatMap Section.kinds ++ [.rightBrace] := by
  have header : .rightBrace ∉ [.keyword .bot, .string script.name, TokenKind.leftBrace] := by simp
  obtain ⟨more, rfl, onward⟩ := exists_more_of_not_mem header split
  rcases Section.rightBrace_cases onward with ⟨rfl, rfl⟩ | ⟨earlier, part, later, parts, rfl, rfl⟩
  · exact .inl ⟨rfl, rfl⟩
  · exact .inr ⟨earlier, part, later, parts, rfl, rfl⟩

/-- The brace behind these kinds closes the bot block or the last inner block. -/
def ClosesLast (script : Script) (front : List TokenKind) : Prop :=
  front = opening script.name script.sections ∨
  ∃ earlier part, script.sections = earlier ++ [part] ∧
    front = opening script.name earlier ++ part.unclosed

theorem ClosesLast.append_eq_opening {script : Script} {before after : List TokenKind}
    (last : script.ClosesLast before) (split : script.kinds = before ++ .rightBrace :: after) :
    before ++ after = opening script.name script.sections := by
  rw [script.kinds_eq_opening] at split
  rcases last with rfl | ⟨earlier, part, parts, rfl⟩
  · cases List.append_cancel_left split
    exact List.append_nil _
  · have inner : opening script.name script.sections =
        opening script.name earlier ++ part.unclosed ++ [.rightBrace] := by
      simp [parts, opening_append, part.kinds_eq_unclosed]
    rw [inner, List.append_assoc _ [_]] at split
    cases List.append_cancel_left split
    exact inner.symm

theorem ClosesLast.exists_keyword {script : Script} {before : List Token}
    (last : script.ClosesLast (before.map Token.kind)) :
    ∃ keyword rest, before = keyword :: rest ∧ keyword.kind = .keyword .bot := by
  rcases last with whole | ⟨earlier, part, -, whole⟩
  all_goals
    obtain ⟨keyword, rest, split, kind, -⟩ := List.map_eq_cons_iff.mp whole
    exact ⟨keyword, rest, split, kind⟩

end Script

theorem Section.exists_keyword {part : Section} {tokens : List Token} {more : List TokenKind}
    (kinds : tokens.map Token.kind = part.kinds ++ more) :
    ∃ keyword behind, tokens = keyword :: behind ∧
      (keyword.kind = .keyword .intent ∨ keyword.kind = .keyword .default) := by
  obtain ⟨heading, actions⟩ := part
  cases tokens with
  | nil => cases heading <;> cases kinds
  | cons keyword behind =>
      cases heading with
      | intent name => exact ⟨keyword, behind, rfl, .inl (List.cons.inj kinds).1⟩
      | default => exact ⟨keyword, behind, rfl, .inr (List.cons.inj kinds).1⟩

/-! ## What the reading runs into -/

theorem BotDraft.toScript_push (bot : BotDraft) (block : BlockDraft) :
    (bot.push block).toScript = ⟨bot.name, bot.toScript.sections ++ [block.toSection]⟩ := by
  simp [toScript, push]

theorem Stage.inBlock_headings_nodup {bot : BotDraft} {block : BlockDraft} (statement : Pending)
    (differ : (bot.push block).headings.Nodup) : (inBlock bot block statement).headings.Nodup := by
  obtain ⟨keyword, heading, actions⟩ := block
  cases heading with
  | intent name => exact (List.nodup_cons.mp differ).2
  | default => exact differ

namespace Bot

theorem ofTokens_opening {name : String} {sections : List Section} {keyword : Token}
    {rest : List Token} (kinds : (keyword :: rest).map Token.kind = Script.opening name sections)
    (differ : (sections.map Section.heading).Nodup) :
    Bot.ofTokens (keyword :: rest) = .error (.unterminated ⟨.bot name, keyword.position⟩) := by
  obtain ⟨bot, written, read⟩ := Script.follow?_opening kinds
  have unequal : bot.headings.Nodup := by
    rw [bot.headings_nodup_iff, written]
    exact differ
  have verdict : Stage.start.Verdict [] (keyword :: rest) _ := .exhausted read unequal nofun
  obtain ⟨before, first, after, split, place, front, -⟩ :=
    Stage.exists_split_of_mark read bot.keyword_mem_marks (List.nil_append _).symm
  cases List.map_eq_nil_iff.mp front
  cases split
  rw [(ofTokens_eq_iff_verdict _ _).mpr verdict, place]
  cases congrArg Script.name written
  rfl

theorem ofTokens_unclosed {name : String} {earlier : List Section} {part : Section}
    {before behind : List Token} {keyword : Token}
    (kinds : before.map Token.kind = Script.opening name earlier ++ part.unclosed)
    (differ : ((earlier ++ [part]).map Section.heading).Nodup)
    (begins : keyword.kind = .keyword .intent ∨ keyword.kind = .keyword .default) :
    Bot.ofTokens (before ++ keyword :: behind) =
      .error (.token keyword.position .statement keyword.kind) := by
  obtain ⟨bot, block, written, rfl, read⟩ := Script.follow?_unclosed kinds
  have unequal : (bot.push block).headings.Nodup := by
    rw [BotDraft.headings_nodup_iff, bot.toScript_push, written]
    exact differ
  have refused : (Stage.inBlock bot block .nothing).next? keyword = none := by
    rcases begins with kind | kind <;> simp [Stage.next?, Pending.next?, kind]
  apply (ofTokens_eq_iff_verdict _ _).mpr
  exact .refused rfl read (Stage.inBlock_headings_nodup .nothing unequal) refused

/-- An accepted list of tokens is refused without any one of its right braces.  If this
brace closed the bot block or its last inner block, the bot block is unterminated, and
the error tells the place of the keyword `bot`.  Otherwise the error is about the keyword
of the next inner block. -/
theorem ofTokens_without_brace {before after : List Token} {brace : Token} {bot : Bot}
    (accepted : Bot.ofTokens (before ++ brace :: after) = .ok bot)
    (kind : brace.kind = .rightBrace) :
    ∃ script : Script, (before ++ brace :: after).map Token.kind = script.kinds ∧
      script.HeadingsDiffer ∧
      (script.ClosesLast (before.map Token.kind) → ∃ keyword ∈ before.head?,
        keyword.kind = .keyword .bot ∧ Bot.ofTokens (before ++ after) =
          .error (.unterminated ⟨.bot script.name, keyword.position⟩)) ∧
      (¬ script.ClosesLast (before.map Token.kind) →
        ∃ earlier part next later keyword behind,
          script.sections = earlier ++ part :: next :: later ∧
          before.map Token.kind = Script.opening script.name earlier ++ part.unclosed ∧
          after = keyword :: behind ∧
          after.map Token.kind = (next :: later).flatMap Section.kinds ++ [.rightBrace] ∧
          Bot.ofTokens (before ++ after) =
            .error (.token keyword.position .statement keyword.kind)) := by
  obtain ⟨script, kinds, differ, -⟩ := (ofTokens_eq_ok_iff_toBot _ bot).mp accepted
  have split : script.kinds = before.map Token.kind ++ .rightBrace :: after.map Token.kind := by
    rw [← kinds, List.map_append, List.map_cons, kind]
  refine ⟨script, kinds, differ, fun last => ?_, fun inner => ?_⟩
  · have shorter := last.append_eq_opening split
    obtain ⟨keyword, rest, rfl, bot⟩ := last.exists_keyword
    rw [← List.map_append] at shorter
    exact ⟨keyword, rfl, bot, ofTokens_opening shorter differ⟩
  · rcases Script.rightBrace_cases split with
      ⟨front, -⟩ | ⟨earlier, part, later, parts, front, rest⟩
    · exact (inner (.inl front)).elim
    cases later with
    | nil => exact (inner (.inr ⟨earlier, part, parts, front⟩)).elim
    | cons next later =>
        have onward : after.map Token.kind =
            next.kinds ++ (later.flatMap Section.kinds ++ [.rightBrace]) := by
          rw [rest, List.flatMap_cons, List.append_assoc]
        obtain ⟨keyword, behind, rfl, begins⟩ := Section.exists_keyword onward
        have begun : earlier ++ [part] <+: script.sections := ⟨next :: later, by simp [parts]⟩
        have unequal := List.Nodup.sublist (begun.sublist.map Section.heading) differ
        exact ⟨earlier, part, next, later, keyword, behind, parts, front, rfl, rest,
          ofTokens_unclosed front unequal begins⟩

theorem ofTokens_without_brace_shop :
    let token (kind : TokenKind) (line column : Nat) : Token := ⟨kind, kind.text, ⟨line, column⟩⟩
    let script : Script := ⟨"Shop", [⟨.intent "buy", []⟩, ⟨.default, [.finish]⟩]⟩
    let front := [token (.keyword .bot) 1 1, token (.string "Shop") 1 5, token .leftBrace 1 12,
      token (.keyword .intent) 2 3, token (.string "buy") 2 10, token .leftBrace 2 16]
    let inner := [token (.keyword .default) 3 3, token .leftBrace 3 11,
      token (.keyword .finish) 3 13]
    let brace := token .rightBrace 2 17
    let brace' := token .rightBrace 3 17
    let last := [token .rightBrace 4 1]
    Bot.ofTokens (front ++ brace :: (inner ++ brace' :: last)) = .ok script.toBot ∧
      ¬ script.ClosesLast (front.map Token.kind) ∧
      Bot.ofTokens (front ++ (inner ++ brace' :: last)) =
        .error (.token ⟨3, 3⟩ .statement (.keyword .default)) ∧
      script.ClosesLast ((front ++ brace :: inner).map Token.kind) ∧
      Bot.ofTokens (front ++ brace :: inner ++ last) =
        .error (.unterminated ⟨.bot "Shop", ⟨1, 1⟩⟩) := by
  intro token script front inner brace brace' last
  have differ : script.HeadingsDiffer := by
    show (script.sections.map Section.heading).Nodup
    decide
  have accepted : Bot.ofTokens (front ++ brace :: (inner ++ brace' :: last)) = .ok script.toBot :=
    (ofTokens_eq_ok_iff_toBot _ _).mpr ⟨script, rfl, differ, rfl⟩
  have accepted' : Bot.ofTokens (front ++ brace :: inner ++ brace' :: last) = .ok script.toBot :=
    accepted
  have closes : script.ClosesLast ((front ++ brace :: inner).map Token.kind) :=
    .inr ⟨[⟨.intent "buy", []⟩], ⟨.default, [.finish]⟩, rfl, rfl⟩
  obtain ⟨other, kinds, -, unterminated, refused⟩ := ofTokens_without_brace accepted rfl
  obtain rfl : script = other := Script.kinds_injective kinds
  obtain ⟨other, kinds', -, unterminated', -⟩ := ofTokens_without_brace accepted' rfl
  obtain rfl : script = other := Script.kinds_injective kinds'
  have goes : ¬ script.ClosesLast (front.map Token.kind) := by
    intro closes'
    obtain ⟨_, -, -, answer⟩ := unterminated closes'
    cases answer
  obtain ⟨_, _, _, _, keyword, _, -, -, ⟨⟩, -, answer⟩ := refused goes
  obtain ⟨_, ⟨⟩, -, answer'⟩ := unterminated' closes
  exact ⟨accepted, goes, answer, closes, answer'⟩

end Bot

end Dialogue
