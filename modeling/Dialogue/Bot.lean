import Std.Data.ExtTreeMap

/-!
# Bots

A bot is a set of named blocks of actions and perhaps a default block.  Blocks
are found by name; the order in which a script declared them is gone.
-/

namespace Dialogue

inductive SetValue where
  | literal (text : String)
  /-- Another variable, whose value is copied as it is. -/
  | copy (source : String)
  deriving DecidableEq, Repr

inductive Action where
  | say (text : String)
  | ask (prompt name : String)
  | set (name : String) (value : SetValue)
  | finish
  deriving DecidableEq, Repr

def SetValue.text : SetValue → String
  | literal text => "\"" ++ text ++ "\""
  | copy source => source

def Action.text : Action → String
  | say text => "say \"" ++ text ++ "\""
  | ask prompt name => "ask \"" ++ prompt ++ "\" as " ++ name
  | set name value => "set " ++ name ++ " = " ++ value.text
  | finish => "end"

structure Block where
  name : String
  actions : List Action
  deriving DecidableEq, Repr

namespace Block

def defaultName : String := "__default__"

def isDefault (block : Block) : Bool :=
  block.name == defaultName

end Block

inductive Heading where
  | intent (name : String)
  | default
  deriving DecidableEq, Repr

def Heading.blockName : Heading → String
  | intent name => name
  | .default => Block.defaultName

structure Bot where
  name : String
  intents : Std.ExtTreeMap String Block
  defaultBlock : Option Block
  deriving DecidableEq

namespace Bot

def intent? (bot : Bot) (name : String) : Option Block :=
  bot.intents[name]?

def block? (bot : Bot) : Heading → Option Block
  | .intent name => bot.intent? name
  | .default => bot.defaultBlock

/-- The heading that answers to a name: its own intent if that is declared, else
the default block if there is one. -/
def heading? (bot : Bot) (name : String) : Option Heading :=
  if (bot.intent? name).isSome then some (.intent name)
  else if bot.defaultBlock.isSome then some .default
  else none

def resolve? (bot : Bot) (name : String) : Option Block :=
  (bot.intent? name).or bot.defaultBlock

def intentNames (bot : Bot) : List String :=
  bot.intents.keys

theorem mem_intentNames_iff {bot : Bot} {name : String} :
    name ∈ bot.intentNames ↔ (bot.intent? name).isSome := by
  rw [intentNames, Std.ExtTreeMap.mem_keys]
  exact Std.ExtTreeMap.isSome_getElem?_iff_mem.symm

theorem intentNames_pairwise (bot : Bot) :
    bot.intentNames.Pairwise fun name other => name.toList < other.toList := by
  have ordered : bot.intentNames.Pairwise fun name other => compare name other = .lt :=
    Std.ExtTreeMap.ordered_keys
  apply ordered.imp
  intro name other less
  exact String.lt_iff.mp (compareOfLessAndEq_eq_lt.mp less)

theorem resolve?_eq_bind (bot : Bot) (name : String) :
    bot.resolve? name = (bot.heading? name).bind bot.block? := by
  unfold resolve? heading?
  cases found : bot.intent? name with
  | some block => simp [block?, found]
  | none =>
      cases fallback : bot.defaultBlock with
      | some block => simp [block?, fallback]
      | none => simp

end Bot

end Dialogue
