import Dialogue.Bot
import Dialogue.Token

/-!
# Scripts

A script is the bot block as it is written: its inner blocks keep their order,
which the bot that it declares forgets.  `Script.kinds` lists the tokens that a
script is made of, and `Script.toBot` is the bot that it declares.
-/

namespace Dialogue

structure Section where
  heading : Heading
  actions : List Action
  deriving DecidableEq, Repr

structure Script where
  name : String
  sections : List Section
  deriving DecidableEq, Repr

/-! ## The tokens of a script -/

def SetValue.kind : SetValue → TokenKind
  | literal text => .string text
  | copy source => .identifier source

def Action.kinds : Action → List TokenKind
  | say text => [.keyword .say, .string text]
  | ask prompt name =>
      [.keyword .ask, .string prompt, .keyword .into, .identifier name]
  | set name value =>
      [.keyword .set, .identifier name, .equal, value.kind]
  | finish => [.keyword .finish]

def Heading.kinds : Heading → List TokenKind
  | intent name => [.keyword .intent, .string name]
  | .default => [.keyword .default]

def Section.kinds (part : Section) : List TokenKind :=
  part.heading.kinds ++
    .leftBrace :: part.actions.flatMap Action.kinds ++ [.rightBrace]

def Script.kinds (script : Script) : List TokenKind :=
  .keyword .bot :: .string script.name :: .leftBrace ::
    script.sections.flatMap Section.kinds ++ [.rightBrace]

/-! ## The bot that a script declares -/

def Section.block (part : Section) : Block :=
  ⟨part.heading.blockName, part.actions⟩

namespace Script

def intents (script : Script) : List (String × Block) :=
  script.sections.filterMap fun part =>
    match part.heading with
    | .intent name => some (name, part.block)
    | .default => none

def defaultBlock (script : Script) : Option Block :=
  (script.sections.find? (·.heading = .default)).map Section.block

def toBot (script : Script) : Bot :=
  ⟨script.name, .ofList script.intents, script.defaultBlock⟩

def HeadingsDiffer (script : Script) : Prop :=
  (script.sections.map Section.heading).Nodup

end Script

end Dialogue
