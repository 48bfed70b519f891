import Dialogue.Script

/-!
# Places in the grammar

`Slot` names what a script needs next, with the words in which a message asks
for it, and `OpenBlock` is a block whose closing brace has not been read.
-/

namespace Dialogue

inductive Slot where
  | botKeyword
  | botName
  | botBrace
  | innerBlock
  | intentName
  | intentBrace
  | defaultBrace
  | statement
  | sayText
  | askPrompt
  | askInto
  | askName
  | setName
  | setEqual
  | setValue
  | afterBot
  deriving DecidableEq, Repr

namespace Slot

def expected : Slot → String
  | botKeyword => "keyword `bot`"
  | botName => "string"
  | botBrace => "`\x7b`"
  | innerBlock => "`intent`, `default` or `\x7d`"
  | intentName => "string"
  | intentBrace => "`\x7b`"
  | defaultBrace => "`\x7b`"
  | statement => "`say`, `ask`, `set`, `end` or `\x7d`"
  | sayText => "string"
  | askPrompt => "string"
  | askInto => "keyword `as`"
  | askName => "identifier"
  | setName => "identifier"
  | setEqual => "`=`"
  | setValue => "string or identifier"
  | afterBot => "the end of the script"

def hint : Slot → String
  | botKeyword => "A script must start with `bot`."
  | botName =>
      "The bot name must be a string.\n" ++
        "Example: bot \"RetailSupport\" \x7b ... \x7d"
  | botBrace => "Expected `\x7b` after the bot name."
  | innerBlock =>
      "A bot block contains only intent and default blocks.\n" ++
        "Example: intent \"greet\" \x7b say \"Hello!\" \x7d"
  | intentName =>
      "The intent name must be a string.\n" ++
        "Example: intent \"check_order\" \x7b ... \x7d"
  | intentBrace => "Expected `\x7b` after the intent name."
  | defaultBrace => "Expected `\x7b` after `default`."
  | statement => "Each statement in a block starts with say, ask, set or end."
  | sayText =>
      "`say` must be followed by a string.\n" ++
        "Example: say \"How can I help?\""
  | askPrompt =>
      "`ask` must be followed by a string prompt.\n" ++
        "Example: ask \"What is your order number?\" as order_id"
  | askInto => "Use `as` to name the variable that receives the answer."
  | askName =>
      "Expected a variable name here.\n" ++
        "Names start with a letter or underscore and contain letters, " ++
        "digits or underscores."
  | setName => "`set` must be followed by a variable name."
  | setEqual => "Example: set status = \"pending\""
  | setValue =>
      "A `set` value is either a string literal or another variable.\n" ++
        "Example: set greeting = \"hello\"  or  set copy = name"
  | afterBot =>
      "A script holds exactly one `bot` block; " ++
        "every `intent` and `default` must be inside its braces."

def complaint (slot : Slot) (found : TokenKind) : String :=
  let fault :=
    match slot with
    | afterBot => "Unexpected " ++ found.describe ++ " after the end of the bot block."
    | _ => "Expected " ++ slot.expected ++ ", found " ++ found.describe
  fault ++ "\n\nHelp: " ++ slot.hint

end Slot

inductive BlockLabel where
  | bot (name : String)
  | inner (heading : Heading)
  deriving DecidableEq, Repr

def BlockLabel.text : BlockLabel → String
  | bot name => "bot \"" ++ name ++ "\""
  | inner (.intent name) => "intent \"" ++ name ++ "\""
  | inner .default => "default"

structure OpenBlock where
  label : BlockLabel
  keyword : Position
  deriving DecidableEq, Repr

end Dialogue
