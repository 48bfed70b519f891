import Dialogue.Proofs.Script.Printing
import Dialogue.Proofs.Session.Shape

/-!
# The reserved name

The default block goes by a name of its own, `Block.defaultName`.  Nothing keeps a
script from giving that name to an intent, and the intent is then taken for the
default block wherever blocks are told apart by their names.  In all other bots that
are loaded the name says exactly which block is the default one.
-/

namespace Dialogue

theorem Heading.blockName_eq_defaultName_iff {heading : Heading} :
    heading.blockName = Block.defaultName ↔
      heading = .default ∨ heading = .intent Block.defaultName := by
  cases heading with
  | intent name => simp [blockName]
  | default => simp [blockName]

namespace Bot

def Named (bot : Bot) : Prop :=
  ∀ heading block, bot.block? heading = some block → block.name = heading.blockName

/-- The reserved name tells the default block from the others: in the bot, among
the blocks that names resolve to, and in the name that a session shows for its
current block. -/
structure ReservesDefault (bot : Bot) : Prop where
  block : ∀ heading block, bot.block? heading = some block →
    (block.isDefault ↔ heading = .default)
  resolved : ∀ name, (∃ block, bot.resolve? name = some block ∧ block.isDefault) ↔
    bot.intent? name = none ∧ bot.defaultBlock.isSome
  current : ∀ events, let session := (Session.new.converse bot events).2
    session.currentName? = some Block.defaultName ↔ session.current = some .default

theorem named_of_load {options : ScriptOptions} {source : String} {bot : Bot}
    (loaded : load options source = .ok bot) : bot.Named := by
  intro heading block found
  obtain ⟨script, -, -, declares⟩ := (load_eq_ok_iff options source bot).mp loaded
  exact ((declares.block?_iff heading block).mp found).1

theorem Named.isDefault_iff {bot : Bot} (named : bot.Named) {heading : Heading} {block : Block}
    (found : bot.block? heading = some block) :
    block.isDefault ↔ heading = .default ∨ heading = .intent Block.defaultName := by
  rw [Block.isDefault, beq_iff_eq, named heading block found]
  exact Heading.blockName_eq_defaultName_iff

theorem Named.resolves_default_iff {bot : Bot} (named : bot.Named) (name : String) :
    (∃ block, bot.resolve? name = some block ∧ block.isDefault) ↔
      bot.intent? name = none ∧ bot.defaultBlock.isSome ∨
        name = Block.defaultName ∧ (bot.intent? name).isSome := by
  cases found : bot.intent? name with
  | some block =>
      have own : bot.block? (.intent name) = some block := found
      simp [resolve?, found, named.isDefault_iff own]
  | none =>
      cases fallback : bot.defaultBlock with
      | none => simp [resolve?, found, fallback]
      | some block =>
          have own : bot.block? .default = some block := fallback
          simp [resolve?, found, fallback, named.isDefault_iff own]

end Bot

theorem Session.currentName?_eq_defaultName_iff {session : Session} :
    session.currentName? = some Block.defaultName ↔
      session.current = some .default ∨ session.current = some (.intent Block.defaultName) := by
  rw [currentName?, Option.map_eq_some_iff]
  constructor
  · rintro ⟨heading, current, reserved⟩
    rcases Heading.blockName_eq_defaultName_iff.mp reserved with rfl | rfl
    · exact .inl current
    · exact .inr current
  · rintro (current | current)
    · exact ⟨_, current, rfl⟩
    · exact ⟨_, current, rfl⟩

namespace Bot

theorem Named.reservesDefault {bot : Bot} (named : bot.Named)
    (undeclared : bot.intent? Block.defaultName = none) : bot.ReservesDefault := by
  have absent (block : Block) : bot.block? (.intent Block.defaultName) ≠ some block := by
    intro found
    cases undeclared.symm.trans found
  refine ⟨?_, ?_, ?_⟩
  · intro heading block found
    rw [named.isDefault_iff found, or_iff_left_iff_imp]
    rintro rfl
    exact (absent block found).elim
  · intro name
    rw [named.resolves_default_iff, or_iff_left_iff_imp]
    rintro ⟨rfl, declared⟩
    simp [undeclared] at declared
  · intro events session
    rw [Session.currentName?_eq_defaultName_iff, or_iff_left_iff_imp]
    intro current
    have shaped : Session.Shaped bot session :=
      Session.shaped_converse (Session.shaped_new bot) events
    obtain ⟨block, found⟩ := shaped.exists_block current
    exact (absent block found).elim

/-- In a bot that was loaded the reserved name tells the default block from the
others exactly when no intent is declared under it. -/
theorem reservesDefault_iff {options : ScriptOptions} {source : String} {bot : Bot}
    (loaded : load options source = .ok bot) :
    bot.ReservesDefault ↔ bot.intent? Block.defaultName = none := by
  have named := named_of_load loaded
  constructor
  · intro reserves
    cases found : bot.intent? Block.defaultName with
    | none => rfl
    | some block =>
        have own : bot.block? (.intent Block.defaultName) = some block := found
        have taken := (named.isDefault_iff own).mpr (.inr rfl)
        cases (reserves.block _ block own).mp taken
  · exact named.reservesDefault

theorem reservesDefault_iff_shop :
    let source := "bot \"Shop\" \x7b intent \"default\" \x7b end \x7d default \x7b \x7d \x7d"
    ∃ bot, load ⟨.wordBoundary⟩ source = .ok bot ∧ bot.defaultBlock.isSome ∧
      bot.intent? Block.defaultName = none ∧ bot.ReservesDefault := by
  intro source
  let script : Script := ⟨"Shop", [⟨.intent "default", [.finish]⟩, ⟨.default, []⟩]⟩
  have differ : script.HeadingsDiffer := by
    show (script.sections.map Section.heading).Nodup
    decide
  have loaded : load ⟨.wordBoundary⟩ source = .ok script.toBot :=
    load_eq_ok_toBot (by decide +kernel) differ
  have undeclared : script.toBot.intent? Block.defaultName = none := by decide +kernel
  exact ⟨script.toBot, loaded, rfl, undeclared, (reservesDefault_iff loaded).mpr undeclared⟩

theorem not_reservesDefault :
    let source := "bot \"B\" \x7b intent \"__default__\" \x7b say \"a\" \x7d \x7d"
    ∃ bot block, load ⟨.wordBoundary⟩ source = .ok bot ∧ bot.defaultBlock = none ∧
      bot.resolve? "__default__" = some block ∧ block.isDefault ∧
      (Session.new.turn bot id "__default__").2.currentName? = some Block.defaultName ∧
      (Session.new.turn bot id "__default__").2.current = some (.intent "__default__") ∧
      ¬ bot.ReservesDefault := by
  intro source
  let block : Block := ⟨"__default__", [.say "a"]⟩
  let script : Script := ⟨"B", [⟨.intent "__default__", block.actions⟩]⟩
  have differ : script.HeadingsDiffer := List.nodup_singleton _
  have loaded : load ⟨.wordBoundary⟩ source = .ok script.toBot :=
    load_eq_ok_toBot (by decide +kernel) differ
  have found : script.toBot.block? (.intent "__default__") = some block := by decide +kernel
  have current : (Session.new.turn script.toBot id "__default__").2.current =
      some (.intent "__default__") := by decide +kernel
  refine ⟨script.toBot, block, loaded, rfl, by decide +kernel, rfl, ?_, current, ?_⟩
  · exact Session.currentName?_eq_defaultName_iff.mpr (.inr current)
  · intro reserves
    cases (reserves.block _ block found).mp rfl

end Bot

end Dialogue
