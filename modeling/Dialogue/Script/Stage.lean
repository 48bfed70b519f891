import Dialogue.Error

/-!
# How far a script has been read

The grammar of scripts nests three deep at most, so a script is read token by
token by a machine whose states, the stages, say what has been read and what is
open.  `Stage.next?` is the grammar alone.  That headings must differ is a second
rule, and `Stage.conflict?` tells at which stage it is first seen to be broken.
-/

namespace Dialogue

inductive Pending where
  | nothing
  | say
  | ask
  | askPrompt (prompt : String)
  | askInto (prompt : String)
  | set
  | setName (name : String)
  | setEqual (name : String)
  deriving DecidableEq, Repr

namespace Pending

def slot : Pending → Slot
  | nothing => .statement
  | say => .sayText
  | ask => .askPrompt
  | askPrompt _ => .askInto
  | askInto _ => .askName
  | set => .setName
  | setName _ => .setEqual
  | setEqual _ => .setValue

def next? : Pending → TokenKind → Option (Pending ⊕ Action)
  | nothing, .keyword .say => some (.inl say)
  | nothing, .keyword .ask => some (.inl ask)
  | nothing, .keyword .set => some (.inl set)
  | nothing, .keyword .finish => some (.inr .finish)
  | say, .string text => some (.inr (.say text))
  | ask, .string prompt => some (.inl (askPrompt prompt))
  | askPrompt prompt, .keyword .into => some (.inl (askInto prompt))
  | askInto prompt, .identifier name => some (.inr (.ask prompt name))
  | set, .identifier name => some (.inl (setName name))
  | setName name, .equal => some (.inl (setEqual name))
  | setEqual name, .string text => some (.inr (.set name (.literal text)))
  | setEqual name, .identifier source => some (.inr (.set name (.copy source)))
  | _, _ => none

end Pending

structure BlockDraft where
  keyword : Position
  heading : Heading
  actions : List Action
  deriving DecidableEq, Repr

namespace BlockDraft

def toSection (block : BlockDraft) : Section :=
  ⟨block.heading, block.actions.reverse⟩

def push (block : BlockDraft) (action : Action) : BlockDraft :=
  { block with actions := action :: block.actions }

def openBlock (block : BlockDraft) : OpenBlock :=
  ⟨.inner block.heading, block.keyword⟩

end BlockDraft

/-- A bot block as far as it has been read: the place of its keyword, and its
closed inner blocks, the latest first. -/
structure BotDraft where
  keyword : Position
  name : String
  blocks : List BlockDraft
  deriving DecidableEq, Repr

namespace BotDraft

def toScript (bot : BotDraft) : Script :=
  ⟨bot.name, bot.blocks.reverse.map BlockDraft.toSection⟩

def push (bot : BotDraft) (block : BlockDraft) : BotDraft :=
  { bot with blocks := block :: bot.blocks }

def openBlock (bot : BotDraft) : OpenBlock :=
  ⟨.bot bot.name, bot.keyword⟩

end BotDraft

inductive Stage where
  | start
  | botKeyword (keyword : Position)
  | botName (keyword : Position) (name : String)
  | between (bot : BotDraft)
  | intentKeyword (bot : BotDraft) (keyword : Position)
  | intentName (bot : BotDraft) (keyword : Position) (name : String)
  | defaultKeyword (bot : BotDraft) (keyword : Position)
  | inBlock (bot : BotDraft) (block : BlockDraft) (statement : Pending)
  | closed (bot : BotDraft)
  deriving DecidableEq, Repr

inductive Conflict where
  | repeatedIntent (name : String) (keyword : Position)
  | secondDefault (keyword : Position)
  deriving DecidableEq, Repr

def Conflict.error : Conflict → Error
  | repeatedIntent name keyword => .duplicateIntent name keyword
  | secondDefault keyword => .secondDefault keyword

namespace Stage

def slot : Stage → Slot
  | start => .botKeyword
  | botKeyword _ => .botName
  | botName .. => .botBrace
  | between _ => .innerBlock
  | intentKeyword .. => .intentName
  | intentName .. => .intentBrace
  | defaultKeyword .. => .defaultBrace
  | inBlock _ _ statement => statement.slot
  | closed _ => .afterBot

def next? (stage : Stage) (token : Token) : Option Stage :=
  match stage, token.kind with
  | start, .keyword .bot => some (botKeyword token.position)
  | botKeyword keyword, .string name => some (botName keyword name)
  | botName keyword name, .leftBrace => some (between ⟨keyword, name, []⟩)
  | between bot, .rightBrace => some (closed bot)
  | between bot, .keyword .intent => some (intentKeyword bot token.position)
  | between bot, .keyword .default => some (defaultKeyword bot token.position)
  | intentKeyword bot keyword, .string name => some (intentName bot keyword name)
  | intentName bot keyword name, .leftBrace =>
      some (inBlock bot ⟨keyword, .intent name, []⟩ .nothing)
  | defaultKeyword bot keyword, .leftBrace =>
      some (inBlock bot ⟨keyword, .default, []⟩ .nothing)
  | inBlock bot block .nothing, .rightBrace => some (between (bot.push block))
  | inBlock bot block statement, kind =>
      (statement.next? kind).map fun
        | .inl statement => inBlock bot block statement
        | .inr action => inBlock bot (block.push action) .nothing
  | _, _ => none

def openBlocks : Stage → List OpenBlock
  | start => []
  | botKeyword _ => []
  | botName .. => []
  | between bot => [bot.openBlock]
  | intentKeyword bot _ => [bot.openBlock]
  | intentName bot .. => [bot.openBlock]
  | defaultKeyword bot _ => [bot.openBlock]
  | inBlock bot block _ => [block.openBlock, bot.openBlock]
  | closed _ => []

/-- The conflict that the token read last has brought about. -/
def conflict? : Stage → Option Conflict
  | between ⟨_, _, latest :: earlier⟩ =>
      match latest.heading with
      | .intent name =>
          if earlier.any (·.heading = .intent name) then
            some (.repeatedIntent name latest.keyword)
          else
            none
      | .default => none
  | defaultKeyword bot keyword =>
      if bot.blocks.any (·.heading = .default) then
        some (.secondDefault keyword)
      else
        none
  | _ => none

end Stage

/-! ## The tokens that have been read -/

def Pending.written : Pending → List TokenKind
  | nothing => []
  | say => [.keyword .say]
  | ask => [.keyword .ask]
  | askPrompt prompt => [.keyword .ask, .string prompt]
  | askInto prompt => [.keyword .ask, .string prompt, .keyword .into]
  | set => [.keyword .set]
  | setName name => [.keyword .set, .identifier name]
  | setEqual name => [.keyword .set, .identifier name, .equal]

def BlockDraft.written (block : BlockDraft) : List TokenKind :=
  block.heading.kinds ++ .leftBrace :: block.actions.reverse.flatMap Action.kinds

def BotDraft.written (bot : BotDraft) : List TokenKind :=
  .keyword .bot :: .string bot.name :: .leftBrace ::
    bot.toScript.sections.flatMap Section.kinds

def Stage.written : Stage → List TokenKind
  | start => []
  | botKeyword _ => [.keyword .bot]
  | botName _ name => [.keyword .bot, .string name]
  | between bot => bot.written
  | intentKeyword bot _ => bot.written ++ [.keyword .intent]
  | intentName bot _ name => bot.written ++ [.keyword .intent, .string name]
  | defaultKeyword bot _ => bot.written ++ [.keyword .default]
  | inBlock bot block statement => bot.written ++ block.written ++ statement.written
  | closed bot => bot.toScript.kinds

theorem Pending.next?_pending {statement later : Pending} {kind : TokenKind}
    (read : statement.next? kind = some (.inl later)) :
    later.written = statement.written ++ [kind] := by
  unfold Pending.next? at read
  split at read <;> cases read <;> rfl

theorem Pending.next?_action {statement : Pending} {kind : TokenKind} {action : Action}
    (read : statement.next? kind = some (.inr action)) :
    action.kinds = statement.written ++ [kind] := by
  unfold Pending.next? at read
  split at read <;> cases read <;> rfl

@[simp] theorem BlockDraft.written_new (keyword : Position) (heading : Heading) :
    BlockDraft.written ⟨keyword, heading, []⟩ = heading.kinds ++ [.leftBrace] := rfl

@[simp] theorem BotDraft.written_new (keyword : Position) (name : String) :
    BotDraft.written ⟨keyword, name, []⟩ =
      [.keyword .bot, .string name, .leftBrace] := rfl

@[simp] theorem BlockDraft.written_push (block : BlockDraft) (action : Action) :
    (block.push action).written = block.written ++ action.kinds := by
  simp [BlockDraft.written, BlockDraft.push]

@[simp] theorem BotDraft.written_push (bot : BotDraft) (block : BlockDraft) :
    (bot.push block).written = bot.written ++ block.written ++ [.rightBrace] := by
  simp [BotDraft.written, BotDraft.push, BotDraft.toScript, BlockDraft.toSection,
    BlockDraft.written, Section.kinds]

@[simp] theorem BotDraft.kinds_toScript (bot : BotDraft) :
    bot.toScript.kinds = bot.written ++ [.rightBrace] := by
  simp [Script.kinds, BotDraft.written, BotDraft.toScript]

theorem Stage.next?_written {stage later : Stage} {token : Token}
    (read : stage.next? token = some later) :
    later.written = stage.written ++ [token.kind] := by
  unfold Stage.next? at read
  split at read
  case h_11 bot block statement _ =>
    obtain ⟨step, found, rfl⟩ := Option.map_eq_some_iff.mp read
    cases step with
    | inl statement =>
        simp [Stage.written, Pending.next?_pending found]
    | inr action =>
        simp [Stage.written, Pending.written, Pending.next?_action found]
  case h_12 => cases read
  all_goals
    rename_i kind
    cases read
    simp [Stage.written, kind, Heading.kinds, Pending.written]

end Dialogue
