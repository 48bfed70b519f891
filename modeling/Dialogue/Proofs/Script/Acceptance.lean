import Dialogue.Proofs.Script.Declared
import Dialogue.Proofs.Script.Verdict

/-!
# Which token lists are scripts

A list of tokens is read as a bot exactly when its kinds are those of a script
whose headings differ, and the bot is the one that this script declares.  Tokens
of a script are followed piece by piece, from the actions up to the bot block.
-/

namespace Dialogue

/-! ## Every script can be followed -/

theorem Stage.follow?_action {action : Action} {tokens : List Token}
    (kinds : tokens.map Token.kind = action.kinds) (bot : BotDraft) (block : BlockDraft) :
    (inBlock bot block .nothing).follow? tokens =
      some (inBlock bot (block.push action) .nothing) := by
  cases action with
  | say text =>
      simp only [Action.kinds, List.map_eq_cons_iff, List.map_eq_nil_iff] at kinds
      obtain ⟨first, _, rfl, one, second, _, rfl, two, rfl⟩ := kinds
      simp [follow?, next?, Pending.next?, one, two]
  | ask prompt name =>
      simp only [Action.kinds, List.map_eq_cons_iff, List.map_eq_nil_iff] at kinds
      obtain ⟨first, _, rfl, one, second, _, rfl, two, third, _, rfl, three,
        fourth, _, rfl, four, rfl⟩ := kinds
      simp [follow?, next?, Pending.next?, one, two, three, four]
  | set name value =>
      simp only [Action.kinds, List.map_eq_cons_iff, List.map_eq_nil_iff] at kinds
      obtain ⟨first, _, rfl, one, second, _, rfl, two, third, _, rfl, three,
        fourth, _, rfl, four, rfl⟩ := kinds
      cases value <;>
        simp [follow?, next?, Pending.next?, one, two, three, four, SetValue.kind]
  | finish =>
      simp only [Action.kinds, List.map_eq_cons_iff, List.map_eq_nil_iff] at kinds
      obtain ⟨first, _, rfl, one, rfl⟩ := kinds
      simp [follow?, next?, Pending.next?, one]

theorem Stage.follow?_actions {actions : List Action} {tokens : List Token}
    (kinds : tokens.map Token.kind = actions.flatMap Action.kinds)
    (bot : BotDraft) (block : BlockDraft) :
    (inBlock bot block .nothing).follow? tokens =
      some (inBlock bot { block with actions := actions.reverse ++ block.actions } .nothing) := by
  induction actions generalizing tokens block with
  | nil =>
      cases List.map_eq_nil_iff.mp kinds
      rfl
  | cons action actions ih =>
      obtain ⟨first, rest, rfl, one, others⟩ := List.map_eq_append_iff.mp kinds
      rw [follow?_append_of_follow? (follow?_action one bot block), ih others]
      simp [BlockDraft.push]

def Section.draft (part : Section) (keyword : Position) : BlockDraft :=
  ⟨keyword, part.heading, part.actions.reverse⟩

@[simp] theorem Section.toSection_draft (part : Section) (keyword : Position) :
    (part.draft keyword).toSection = part := by
  simp [draft, BlockDraft.toSection]

theorem Stage.follow?_heading {heading : Heading} {keyword : Token} {rest : List Token}
    (kinds : (keyword :: rest).map Token.kind = heading.kinds ++ [.leftBrace])
    (bot : BotDraft) :
    (between bot).follow? (keyword :: rest) =
      some (inBlock bot ⟨keyword.position, heading, []⟩ .nothing) := by
  cases heading with
  | intent name =>
      simp only [Heading.kinds, List.map_cons, List.cons_append, List.nil_append,
        List.cons.injEq, List.map_eq_cons_iff, List.map_eq_nil_iff] at kinds
      obtain ⟨one, second, _, rfl, two, third, _, rfl, three, rfl⟩ := kinds
      simp [follow?, next?, one, two, three]
  | default =>
      simp only [Heading.kinds, List.map_cons, List.cons_append, List.nil_append,
        List.cons.injEq, List.map_eq_cons_iff, List.map_eq_nil_iff] at kinds
      obtain ⟨one, second, _, rfl, two, rfl⟩ := kinds
      simp [follow?, next?, one, two]

def Section.unclosed (part : Section) : List TokenKind :=
  part.heading.kinds ++ .leftBrace :: part.actions.flatMap Action.kinds

theorem Section.kinds_eq_unclosed (part : Section) :
    part.kinds = part.unclosed ++ [.rightBrace] := rfl

theorem Stage.follow?_unclosed {part : Section} {keyword : Token} {rest : List Token}
    (kinds : (keyword :: rest).map Token.kind = part.unclosed) (bot : BotDraft) :
    (between bot).follow? (keyword :: rest) =
      some (inBlock bot (part.draft keyword.position) .nothing) := by
  have split : (keyword :: rest).map Token.kind =
      (part.heading.kinds ++ [.leftBrace]) ++ part.actions.flatMap Action.kinds := by
    simp [kinds, Section.unclosed]
  obtain ⟨header, statements, whole, headerKinds, statementKinds⟩ := List.map_eq_append_iff.mp split
  cases header with
  | nil => simp at headerKinds
  | cons first header =>
      obtain ⟨rfl, rfl⟩ : keyword = first ∧ rest = header ++ statements := by
        simpa using whole
      rw [← List.cons_append, follow?_append_of_follow? (follow?_heading headerKinds bot),
        follow?_actions statementKinds bot]
      simp [Section.draft]

theorem Section.exists_brace {part : Section} {keyword : Token} {rest : List Token}
    (kinds : (keyword :: rest).map Token.kind = part.kinds) :
    ∃ inside brace, rest = inside ++ [brace] ∧
      (keyword :: inside).map Token.kind = part.unclosed ∧ brace.kind = .rightBrace := by
  rw [part.kinds_eq_unclosed] at kinds
  obtain ⟨front, last, whole, frontKinds, lastKinds⟩ := List.map_eq_append_iff.mp kinds
  simp only [List.map_eq_cons_iff, List.map_eq_nil_iff] at lastKinds
  obtain ⟨brace, _, rfl, braceKind, rfl⟩ := lastKinds
  cases front with
  | nil => cases part with | mk heading actions => cases heading <;> cases frontKinds
  | cons first inside =>
      obtain ⟨rfl, rfl⟩ : keyword = first ∧ rest = inside ++ [brace] := by
        simpa using whole
      exact ⟨inside, brace, rfl, frontKinds, braceKind⟩

theorem Stage.next?_rightBrace {brace : Token} (kind : brace.kind = .rightBrace) (bot : BotDraft)
    (block : BlockDraft) :
    (inBlock bot block .nothing).next? brace = some (between (bot.push block)) := by
  simp only [next?, kind]

theorem Stage.follow?_section {part : Section} {keyword : Token} {rest : List Token}
    (kinds : (keyword :: rest).map Token.kind = part.kinds) (bot : BotDraft) :
    (between bot).follow? (keyword :: rest) =
      some (between (bot.push (part.draft keyword.position))) := by
  obtain ⟨inside, brace, rfl, unclosed, braceKind⟩ := Section.exists_brace kinds
  rw [← List.cons_append, follow?_append_of_follow? (follow?_unclosed unclosed bot),
    follow?_cons_of_next? (next?_rightBrace braceKind bot _)]
  rfl

theorem Stage.follow?_sections {sections : List Section} {tokens : List Token}
    (kinds : tokens.map Token.kind = sections.flatMap Section.kinds) (bot : BotDraft) :
    ∃ blocks : List BlockDraft, blocks.map BlockDraft.toSection = sections ∧
      (between bot).follow? tokens =
        some (between { bot with blocks := blocks.reverse ++ bot.blocks }) := by
  induction sections generalizing tokens bot with
  | nil =>
      cases List.map_eq_nil_iff.mp kinds
      exact ⟨[], rfl, rfl⟩
  | cons part sections ih =>
      obtain ⟨first, others, rfl, firstKinds, otherKinds⟩ := List.map_eq_append_iff.mp kinds
      cases first with
      | nil => cases part with | mk heading actions => cases heading <;> cases firstKinds
      | cons keyword rest =>
          obtain ⟨blocks, written, read⟩ :=
            ih otherKinds (bot.push (part.draft keyword.position))
          refine ⟨part.draft keyword.position :: blocks, ?_, ?_⟩
          · simp [written]
          · rw [follow?_append_of_follow? (follow?_section firstKinds bot), read]
            simp [BotDraft.push]

def Script.opening (name : String) (sections : List Section) : List TokenKind :=
  .keyword .bot :: .string name :: .leftBrace :: sections.flatMap Section.kinds

theorem Script.kinds_eq_opening (script : Script) :
    script.kinds = opening script.name script.sections ++ [.rightBrace] := rfl

theorem Script.opening_append (name : String) (earlier later : List Section) :
    opening name (earlier ++ later) = opening name earlier ++ later.flatMap Section.kinds := by
  simp [opening]

theorem Script.follow?_opening {name : String} {sections : List Section} {tokens : List Token}
    (kinds : tokens.map Token.kind = opening name sections) :
    ∃ bot : BotDraft, bot.toScript = ⟨name, sections⟩ ∧
      Stage.start.follow? tokens = some (.between bot) := by
  have split : tokens.map Token.kind =
      [.keyword .bot, .string name, .leftBrace] ++ sections.flatMap Section.kinds := kinds
  obtain ⟨header, inner, rfl, headerKinds, innerKinds⟩ := List.map_eq_append_iff.mp split
  simp only [List.map_eq_cons_iff, List.map_eq_nil_iff] at headerKinds
  obtain ⟨first, _, rfl, one, second, _, rfl, two, third, _, rfl, three, rfl⟩ := headerKinds
  have opened : Stage.start.follow? [first, second, third] =
      some (.between ⟨first.position, name, []⟩) := by
    simp [Stage.follow?, Stage.next?, one, two, three]
  obtain ⟨blocks, written, read⟩ :=
    Stage.follow?_sections innerKinds ⟨first.position, name, []⟩
  refine ⟨⟨first.position, name, blocks.reverse⟩, ?_, ?_⟩
  · simp [BotDraft.toScript, written]
  · rw [Stage.follow?_append_of_follow? opened, read, List.append_nil]

theorem Script.follow?_unclosed {name : String} {earlier : List Section} {part : Section}
    {tokens : List Token} (kinds : tokens.map Token.kind = opening name earlier ++ part.unclosed) :
    ∃ (bot : BotDraft) (block : BlockDraft), bot.toScript = ⟨name, earlier⟩ ∧
      block.toSection = part ∧ Stage.start.follow? tokens = some (.inBlock bot block .nothing) := by
  obtain ⟨before, inside, rfl, beforeKinds, insideKinds⟩ := List.map_eq_append_iff.mp kinds
  obtain ⟨bot, written, read⟩ := follow?_opening beforeKinds
  cases inside with
  | nil => cases part with | mk heading actions => cases heading <;> cases insideKinds
  | cons keyword inside =>
      refine ⟨bot, part.draft keyword.position, written, part.toSection_draft _, ?_⟩
      rw [Stage.follow?_append_of_follow? read, Stage.follow?_unclosed insideKinds]

theorem Script.follow?_tokens {script : Script} {tokens : List Token}
    (kinds : tokens.map Token.kind = script.kinds) :
    ∃ bot : BotDraft, bot.toScript = script ∧
      Stage.start.follow? tokens = some (.closed bot) := by
  rw [script.kinds_eq_opening] at kinds
  obtain ⟨front, last, rfl, frontKinds, lastKinds⟩ := List.map_eq_append_iff.mp kinds
  simp only [List.map_eq_cons_iff, List.map_eq_nil_iff] at lastKinds
  obtain ⟨brace, _, rfl, braceKind, rfl⟩ := lastKinds
  obtain ⟨bot, written, read⟩ := follow?_opening frontKinds
  refine ⟨bot, written, ?_⟩
  rw [Stage.follow?_append_of_follow? read]
  simp [Stage.follow?, Stage.next?, braceKind]

def Token.ofKind (kind : TokenKind) : Token :=
  ⟨kind, kind.text, .start⟩

theorem Token.map_kind_ofKind (kinds : List TokenKind) :
    (kinds.map Token.ofKind).map Token.kind = kinds := by
  rw [List.map_map]
  exact List.map_id kinds

theorem Script.kinds_injective {script other : Script} (same : script.kinds = other.kinds) :
    script = other := by
  obtain ⟨draft, rfl, read⟩ := Script.follow?_tokens (Token.map_kind_ofKind script.kinds)
  obtain ⟨draft', rfl, read'⟩ := Script.follow?_tokens (Token.map_kind_ofKind other.kinds)
  rw [same] at read
  cases read.symm.trans read'
  rfl

/-! ## The reader follows the grammar and minds the headings -/

theorem Stage.readOn_eq_ok_iff (outer : List OpenBlock) {stage : Stage} {tokens : List Token}
    (differ : stage.headings.Nodup) (bot : Bot) :
    (stage.readOn outer tokens).1 = .ok bot ↔
      ∃ draft : BotDraft, stage.follow? tokens = some (closed draft) ∧
        draft.headings.Nodup ∧ draft.toScript.toBot = bot := by
  rw [readOn_eq_iff_verdict differ]
  constructor
  · intro verdict
    cases verdict with
    | @accepted draft read unequal => exact ⟨draft, read, unequal, rfl⟩
  · rintro ⟨draft, read, unequal, rfl⟩
    exact .accepted read unequal

theorem BotDraft.map_heading_sections (bot : BotDraft) :
    bot.toScript.sections.map Section.heading = bot.headings.reverse := by
  simp [toScript, headings, BlockDraft.toSection, Function.comp_def]

theorem BotDraft.mem_headings_iff {bot : BotDraft} {heading : Heading} :
    heading ∈ bot.headings ↔ heading ∈ bot.toScript.sections.map Section.heading := by
  rw [bot.map_heading_sections, List.mem_reverse]

theorem BotDraft.headings_nodup_iff (bot : BotDraft) :
    bot.headings.Nodup ↔ bot.toScript.HeadingsDiffer := by
  rw [Script.HeadingsDiffer, bot.map_heading_sections, List.nodup_reverse]

namespace Bot

theorem ofTokens_eq_ok_iff_toBot (tokens : List Token) (bot : Bot) :
    Bot.ofTokens tokens = .ok bot ↔
      ∃ script : Script, tokens.map Token.kind = script.kinds ∧
        script.HeadingsDiffer ∧ script.toBot = bot := by
  have distinct : Stage.start.headings.Nodup := List.nodup_nil
  rw [ofTokens, ScriptReader.read, ScriptReader.ofTokens,
    Stage.readOn_eq_ok_iff [] distinct]
  constructor
  · rintro ⟨draft, read, differ, rfl⟩
    have written := Stage.written_of_follow? read
    exact ⟨draft.toScript, written.symm, draft.headings_nodup_iff.mp differ, rfl⟩
  · rintro ⟨script, kinds, differ, rfl⟩
    obtain ⟨draft, rfl, read⟩ := Script.follow?_tokens kinds
    exact ⟨draft, read, draft.headings_nodup_iff.mpr differ, rfl⟩

/-- The tokens that are accepted are those of the scripts whose headings differ,
and the answer is the bot that the script declares. -/
theorem ofTokens_accepts_scripts (tokens : List Token) :
    (∀ bot, Bot.ofTokens tokens = .ok bot ↔
      ∃ script : Script, tokens.map Token.kind = script.kinds ∧
        script.HeadingsDiffer ∧ script.Declares bot) ∧
    ∀ script : Script, tokens.map Token.kind = script.kinds → script.HeadingsDiffer →
      ∃ bot, Bot.ofTokens tokens = .ok bot ∧ script.Declares bot := by
  constructor
  · intro bot
    rw [ofTokens_eq_ok_iff_toBot]
    constructor
    · rintro ⟨script, kinds, differ, rfl⟩
      exact ⟨script, kinds, differ, differ.declares_toBot⟩
    · rintro ⟨script, kinds, differ, declares⟩
      exact ⟨script, kinds, differ, (differ.declares_iff.mp declares).symm⟩
  · intro script kinds differ
    refine ⟨script.toBot, ?_, differ.declares_toBot⟩
    exact (ofTokens_eq_ok_iff_toBot tokens script.toBot).mpr ⟨script, kinds, differ, rfl⟩

theorem ofTokens_accepts_scripts_shop :
    let script : Script := ⟨"Shop", [
      ⟨.intent "order", [.ask "Which number?" "number", .set "copy" (.copy "number"), .finish]⟩,
      ⟨.default, [.say "Sorry?"]⟩,
      ⟨.intent "__default__", [.set "copy" (.literal "none"), .say "Hello"]⟩]⟩
    ∃ bot, Bot.ofTokens (script.kinds.map fun kind => ⟨kind, "", .start⟩) = .ok bot ∧
      script.Declares bot := by
  intro script
  apply (ofTokens_accepts_scripts (script.kinds.map fun kind => ⟨kind, "", .start⟩)).2
  · simp [Function.comp_def]
  · show (script.sections.map Section.heading).Nodup
    decide

end Bot

end Dialogue
