import Dialogue.Proofs.Script.Acceptance
import Dialogue.Proofs.Session.Conversation
import Mathlib.Data.List.Perm.Basic
import Mathlib.Tactic.Choose

/-!
# Rearranged scripts

The inner blocks of a script may stand in any order.  The tokens of a script are cut into
those of its inner blocks and the few around them, and when whole blocks change places
the same bot is read.
-/

namespace Dialogue

/-- The tokens of a script, with those of each inner block by themselves. -/
structure ScriptTokens where
  header : List Token
  blocks : List (List Token)
  brace : Token
  opens : ∃ name, header.map Token.kind = [.keyword .bot, .string name, .leftBrace]
  inner : ∀ block ∈ blocks, ∃ part : Section, block.map Token.kind = part.kinds
  closes : brace.kind = .rightBrace

theorem Section.intent_prefix_kinds_iff {part : Section} {name : String} :
    [.keyword .intent, .string name] <+: part.kinds ↔ part.heading = .intent name := by
  obtain ⟨heading, actions⟩ := part
  cases heading with
  | intent other => simp [kinds, Heading.kinds, eq_comm]
  | default => simp [kinds, Heading.kinds]

namespace ScriptTokens

def tokens (script : ScriptTokens) : List Token :=
  script.header ++ script.blocks.flatten ++ [script.brace]

def rearranged (script : ScriptTokens) (blocks : List (List Token))
    (same : blocks.Perm script.blocks) : ScriptTokens :=
  { script with blocks, inner := fun block member => script.inner block (same.mem_iff.mp member) }

/-- The intents that are declared, as their tokens say. -/
def Declares (script : ScriptTokens) (name : String) : Prop :=
  ∃ block ∈ script.blocks, [.keyword .intent, .string name] <+: block.map Token.kind

theorem exists_blocks {sections : List Section} {tokens : List Token}
    (kinds : tokens.map Token.kind = sections.flatMap Section.kinds) :
    ∃ blocks : List (List Token), blocks.flatten = tokens ∧
      ∀ block ∈ blocks, ∃ part : Section, block.map Token.kind = part.kinds := by
  induction sections generalizing tokens with
  | nil =>
      cases List.map_eq_nil_iff.mp kinds
      exact ⟨[], rfl, nofun⟩
  | cons part sections ih =>
      obtain ⟨first, others, rfl, firstKinds, otherKinds⟩ := List.map_eq_append_iff.mp kinds
      obtain ⟨blocks, rfl, inner⟩ := ih otherKinds
      exact ⟨first :: blocks, rfl, List.forall_mem_cons.mpr ⟨⟨part, firstKinds⟩, inner⟩⟩

theorem exists_of_kinds {script : Script} {tokens : List Token}
    (kinds : tokens.map Token.kind = script.kinds) :
    ∃ cut : ScriptTokens, cut.tokens = tokens := by
  rw [script.kinds_eq_opening] at kinds
  obtain ⟨front, last, rfl, frontKinds, lastKinds⟩ := List.map_eq_append_iff.mp kinds
  obtain ⟨brace, rfl, closes⟩ := List.map_eq_singleton_iff.mp lastKinds
  have split : front.map Token.kind =
      [.keyword .bot, .string script.name, .leftBrace] ++ script.sections.flatMap Section.kinds :=
    frontKinds
  obtain ⟨header, inside, rfl, headerKinds, insideKinds⟩ := List.map_eq_append_iff.mp split
  obtain ⟨blocks, rfl, inner⟩ := exists_blocks insideKinds
  exact ⟨⟨header, blocks, brace, ⟨script.name, headerKinds⟩, inner, closes⟩, rfl⟩

theorem exists_parts (script : ScriptTokens) :
    ∃ (name : String) (part : List Token → Section),
      (∀ block ∈ script.blocks, block.map Token.kind = (part block).kinds) ∧
      ∀ blocks (same : blocks.Perm script.blocks),
        (script.rearranged blocks same).tokens.map Token.kind =
          Script.kinds ⟨name, blocks.map part⟩ := by
  obtain ⟨name, opens⟩ := script.opens
  have : Nonempty Section := ⟨⟨.default, []⟩⟩
  choose! part parts using script.inner
  refine ⟨name, part, parts, fun blocks same => ?_⟩
  have inside : blocks.flatten.map Token.kind = (blocks.map part).flatMap Section.kinds := by
    rw [List.map_flatten, List.flatMap_map, List.flatMap_def]
    congr 1
    apply List.map_congr_left
    intro block member
    exact parts block (same.mem_iff.mp member)
  simp [tokens, rearranged, Script.kinds, opens, inside, script.closes]

theorem declares_iff {script : ScriptTokens} {part : List Token → Section}
    (parts : ∀ block ∈ script.blocks, block.map Token.kind = (part block).kinds) {name : String} :
    script.Declares name ↔ ∃ actions, ⟨.intent name, actions⟩ ∈ script.blocks.map part := by
  constructor
  · rintro ⟨block, member, begun⟩
    rw [parts block member, Section.intent_prefix_kinds_iff] at begun
    exact ⟨(part block).actions, List.mem_map.mpr ⟨block, member, by rw [← begun]⟩⟩
  · rintro ⟨actions, member⟩
    obtain ⟨block, member, read⟩ := List.mem_map.mp member
    refine ⟨block, member, ?_⟩
    rw [parts block member, read]
    exact Section.intent_prefix_kinds_iff.mpr rfl

end ScriptTokens

namespace Script

theorem HeadingsDiffer.perm {script other : Script} (differ : script.HeadingsDiffer)
    (same : other.sections.Perm script.sections) : other.HeadingsDiffer :=
  (same.map Section.heading).nodup_iff.mpr differ

theorem HeadingsDiffer.toBot_eq_of_perm {script other : Script} (differ : script.HeadingsDiffer)
    (name : other.name = script.name) (same : other.sections.Perm script.sections) :
    other.toBot = script.toBot := by
  have declares : other.Declares script.toBot :=
    differ.declares_toBot.of_mem_iff name fun _ => same.mem_iff
  exact ((differ.perm same).declares_iff.mp declares).symm

theorem HeadingsDiffer.mem_intentNames_iff {script : Script} (differ : script.HeadingsDiffer)
    {name : String} :
    name ∈ script.toBot.intentNames ↔ ∃ actions, ⟨.intent name, actions⟩ ∈ script.sections := by
  rw [Bot.mem_intentNames_iff, Option.isSome_iff_exists]
  constructor
  · rintro ⟨block, found⟩
    exact ⟨block.actions, ((differ.declares_toBot.intent_iff name block).mp found).2⟩
  · rintro ⟨actions, member⟩
    exact ⟨⟨name, actions⟩, (differ.declares_toBot.intent_iff name _).mpr ⟨rfl, member⟩⟩

end Script

namespace Bot

/-- Accepted tokens may have their inner blocks in any other order: the bot is the same,
and it goes through every conversation alike.  Its names are those that are declared,
in increasing order. -/
theorem ofTokens_rearranged {tokens : List Token} {bot : Bot}
    (accepted : Bot.ofTokens tokens = .ok bot) :
    (∃ script : ScriptTokens, script.tokens = tokens) ∧
    ∀ script : ScriptTokens, script.tokens = tokens →
      (∀ blocks (same : blocks.Perm script.blocks),
        ∃ other, Bot.ofTokens (script.rearranged blocks same).tokens = .ok other ∧ other = bot ∧
          (∀ (session : Session) (events : List Event),
            session.converse other events = session.converse bot events) ∧
          other.intentNames = bot.intentNames) ∧
      bot.intentNames.Pairwise (fun name other => name.toList < other.toList) ∧
      ∀ name, name ∈ bot.intentNames ↔ script.Declares name := by
  obtain ⟨read, readKinds, differ, rfl⟩ := (ofTokens_eq_ok_iff_toBot tokens bot).mp accepted
  refine ⟨ScriptTokens.exists_of_kinds readKinds, ?_⟩
  rintro script rfl
  obtain ⟨name, part, parts, kinds⟩ := script.exists_parts
  obtain rfl : read = ⟨name, script.blocks.map part⟩ :=
    Script.kinds_injective (readKinds.symm.trans (kinds script.blocks (.refl _)))
  refine ⟨fun blocks same => ?_, intentNames_pairwise _, fun declared => ?_⟩
  · have moved : (blocks.map part).Perm (script.blocks.map part) := same.map part
    let other : Script := ⟨name, blocks.map part⟩
    have unequal : other.HeadingsDiffer := differ.perm moved
    have equal : other.toBot = Script.toBot ⟨name, script.blocks.map part⟩ :=
      differ.toBot_eq_of_perm rfl moved
    refine ⟨other.toBot, ?_, equal, fun session events => by rw [equal], by rw [equal]⟩
    exact (ofTokens_eq_ok_iff_toBot _ _).mpr ⟨other, kinds blocks same, unequal, rfl⟩
  · rw [differ.mem_intentNames_iff, ScriptTokens.declares_iff parts]

theorem ofTokens_rearranged_shop :
    let token (kind : TokenKind) (line column : Nat) : Token := ⟨kind, kind.text, ⟨line, column⟩⟩
    let header := [token (.keyword .bot) 1 1, token (.string "Shop") 1 5, token .leftBrace 1 12]
    let sell := [token (.keyword .intent) 2 3, token (.string "sell") 2 10, token .leftBrace 2 17,
      token (.keyword .say) 2 19, token (.string "Sold.") 2 23, token .rightBrace 2 31]
    let other := [token (.keyword .default) 3 3, token .leftBrace 3 11, token .rightBrace 3 13]
    let buy := [token (.keyword .intent) 4 3, token (.string "buy") 4 10, token .leftBrace 4 16,
      token (.keyword .finish) 4 18, token .rightBrace 4 22]
    let brace := token .rightBrace 5 1
    ∃ bot, Bot.ofTokens (header ++ [sell, other, buy].flatten ++ [brace]) = .ok bot ∧
      Bot.ofTokens (header ++ [buy, other, sell].flatten ++ [brace]) = .ok bot ∧
      "sell" ∈ bot.intentNames ∧ "buy" ∈ bot.intentNames := by
  intro token header sell other buy brace
  let cut : ScriptTokens := {
    header, blocks := [sell, other, buy], brace
    opens := ⟨"Shop", rfl⟩
    inner := by
      simp only [List.forall_mem_cons]
      exact ⟨⟨⟨.intent "sell", [.say "Sold."]⟩, rfl⟩, ⟨⟨.default, []⟩, rfl⟩,
        ⟨⟨.intent "buy", [.finish]⟩, rfl⟩, nofun⟩
    closes := rfl }
  let script : Script := ⟨"Shop",
    [⟨.intent "sell", [.say "Sold."]⟩, ⟨.default, []⟩, ⟨.intent "buy", [.finish]⟩]⟩
  have differ : script.HeadingsDiffer := by
    show (script.sections.map Section.heading).Nodup
    decide
  have accepted : Bot.ofTokens cut.tokens = .ok script.toBot :=
    (ofTokens_eq_ok_iff_toBot _ _).mpr ⟨script, rfl, differ, rfl⟩
  have turned : [buy, other, sell].Perm cut.blocks := List.reverse_perm [sell, other, buy]
  obtain ⟨-, moved⟩ := ofTokens_rearranged accepted
  obtain ⟨alike, -, names⟩ := moved cut rfl
  obtain ⟨_, answer, rfl, -⟩ := alike _ turned
  exact ⟨script.toBot, accepted, answer, (names "sell").mpr ⟨sell, by simp [cut], ⟨_, rfl⟩⟩,
    (names "buy").mpr ⟨buy, by simp [cut], ⟨_, rfl⟩⟩⟩

end Bot

end Dialogue
