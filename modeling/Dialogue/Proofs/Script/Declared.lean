import Dialogue.Script
import Mathlib.Data.List.Nodup

/-!
# The bot that a script declares

`Script.Declares` says block by block which bot a script stands for, without the
order of the blocks.  A script whose headings differ declares one bot and no
other, and that is `Script.toBot`.
-/

namespace Dialogue

namespace Script

/-- The bot has the script's name and exactly the script's blocks: every intent
under its own name, and the default block under the reserved one. -/
structure Declares (script : Script) (bot : Bot) : Prop where
  name_eq : bot.name = script.name
  intent_iff : ∀ name block, bot.intents[name]? = some block ↔
    block.name = name ∧ ⟨.intent name, block.actions⟩ ∈ script.sections
  default_iff : ∀ block, bot.defaultBlock = some block ↔
    block.name = Block.defaultName ∧ ⟨.default, block.actions⟩ ∈ script.sections

theorem Declares.block?_iff {script : Script} {bot : Bot} (declares : script.Declares bot)
    (heading : Heading) (block : Block) :
    bot.block? heading = some block ↔
      block.name = heading.blockName ∧ ⟨heading, block.actions⟩ ∈ script.sections := by
  cases heading with
  | intent name => exact declares.intent_iff name block
  | default => exact declares.default_iff block

theorem Declares.bot_unique {script : Script} {first second : Bot}
    (one : script.Declares first) (other : script.Declares second) : first = second := by
  obtain ⟨name, intents, defaultBlock⟩ := first
  obtain ⟨name', intents', defaultBlock'⟩ := second
  have names : name = name' := one.name_eq.trans other.name_eq.symm
  have maps : intents = intents' := by
    apply Std.ExtTreeMap.ext_getElem?
    intro key
    apply Option.ext
    intro block
    exact (one.intent_iff key block).trans (other.intent_iff key block).symm
  have defaults : defaultBlock = defaultBlock' := by
    apply Option.ext
    intro block
    exact (one.default_iff block).trans (other.default_iff block).symm
  rw [names, maps, defaults]

theorem Declares.of_mem_iff {script other : Script} {bot : Bot}
    (declares : script.Declares bot) (name : other.name = script.name)
    (same : ∀ part, part ∈ other.sections ↔ part ∈ script.sections) : other.Declares bot where
  name_eq := declares.name_eq.trans name.symm
  intent_iff key block := by
    rw [declares.intent_iff, same]
  default_iff block := by
    rw [declares.default_iff, same]

/-! ## The declared bot -/

theorem mem_intents_iff {script : Script} {name : String} {block : Block} :
    (name, block) ∈ script.intents ↔
      block.name = name ∧ ⟨.intent name, block.actions⟩ ∈ script.sections := by
  simp only [intents, List.mem_filterMap]
  constructor
  · rintro ⟨⟨heading, actions⟩, member, found⟩
    cases heading with
    | intent _ =>
        cases found
        exact ⟨rfl, member⟩
    | default => cases found
  · rintro ⟨rfl, member⟩
    exact ⟨_, member, rfl⟩

theorem HeadingsDiffer.intents_pairwise {script : Script} (differ : script.HeadingsDiffer) :
    script.intents.Pairwise fun first second => ¬ compare first.1 second.1 = .eq := by
  apply List.Pairwise.filterMap _ _ (List.pairwise_map.mp differ)
  intro first second unequal entry found entry' found'
  split at found <;> cases found
  split at found' <;> cases found'
  rename_i heading _ _ heading'
  simp only [Std.LawfulEqOrd.compare_eq_iff_eq]
  rintro rfl
  exact unequal (heading.trans heading'.symm)

theorem HeadingsDiffer.eq_of_heading_eq {script : Script} (differ : script.HeadingsDiffer)
    {first second : Section} (member : first ∈ script.sections)
    (member' : second ∈ script.sections) (same : first.heading = second.heading) :
    first = second :=
  List.inj_on_of_nodup_map differ member member' same

theorem HeadingsDiffer.getElem?_intents {script : Script} (differ : script.HeadingsDiffer)
    (name : String) (block : Block) :
    script.toBot.intents[name]? = some block ↔ (name, block) ∈ script.intents := by
  have held {key : String} {other : Block} (member : (key, other) ∈ script.intents) :
      script.toBot.intents[key]? = some other :=
    Std.ExtTreeMap.getElem?_ofList_of_mem Std.ReflCmp.compare_self differ.intents_pairwise member
  constructor
  · intro found
    have known : name ∈ script.toBot.intents := by
      rw [← Std.ExtTreeMap.isSome_getElem?_iff_mem, found]
      rfl
    obtain ⟨⟨key, other⟩, member, rfl⟩ :=
      List.mem_map.mp (List.contains_iff_mem.mp (Std.ExtTreeMap.mem_ofList.mp known))
    cases (held member).symm.trans found
    exact member
  · exact held

theorem HeadingsDiffer.defaultBlock_eq_some_iff {script : Script}
    (differ : script.HeadingsDiffer) (block : Block) :
    script.defaultBlock = some block ↔
      block.name = Block.defaultName ∧ ⟨.default, block.actions⟩ ∈ script.sections := by
  simp only [defaultBlock, Option.map_eq_some_iff]
  constructor
  · rintro ⟨⟨heading, actions⟩, found, rfl⟩
    have is_default : heading = .default := by simpa using List.find?_some found
    subst is_default
    exact ⟨rfl, List.mem_of_find?_eq_some found⟩
  · obtain ⟨name, actions⟩ := block
    rintro ⟨rfl, member⟩
    cases found : script.sections.find? (·.heading = .default) with
    | none =>
        have missing := List.find?_eq_none.mp found _ member
        simp at missing
    | some part =>
        have is_default : part.heading = .default := by simpa using List.find?_some found
        have same := differ.eq_of_heading_eq (List.mem_of_find?_eq_some found) member is_default
        subst same
        exact ⟨_, rfl, rfl⟩

theorem HeadingsDiffer.declares_toBot {script : Script} (differ : script.HeadingsDiffer) :
    script.Declares script.toBot where
  name_eq := rfl
  intent_iff name block := (differ.getElem?_intents name block).trans mem_intents_iff
  default_iff := differ.defaultBlock_eq_some_iff

theorem HeadingsDiffer.declares_iff {script : Script} (differ : script.HeadingsDiffer)
    {bot : Bot} : script.Declares bot ↔ bot = script.toBot := by
  constructor
  · intro declares
    exact declares.bot_unique differ.declares_toBot
  · rintro rfl
    exact differ.declares_toBot

end Script

end Dialogue
