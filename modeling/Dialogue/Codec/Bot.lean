import Dialogue.Bot
import Dialogue.Json.Decode
import Dialogue.Json.Value

/-!
# Bots as JSON

A map of blocks may hold a key twice; the later block wins.
-/

namespace Dialogue

open Json

namespace SetValue

def encode : SetValue → Value
  | literal text => .object [("Literal", .string text)]
  | copy source => .object [("Variable", .string source)]

def decoder : Decoder SetValue :=
  Variant.decoder
    [⟨"Literal", .value fun node => literal <$> Decoder.string node⟩,
      ⟨"Variable", .value fun node => copy <$> Decoder.string node⟩]

end SetValue

namespace Action

def encode : Action → Value
  | say text => .object [("Say", .object [("text", .string text)])]
  | ask prompt name =>
      .object [("Ask", .object [("prompt", .string prompt), ("variable", .string name)])]
  | set name value =>
      .object [("Set", .object [("variable", .string name), ("value", value.encode)])]
  | finish => .string "End"

def sayDecoder : Decoder Action := fun node =>
  say <$> (Record.field "text" Decoder.string).decoder "struct variant Action::Say" node

def askDecoder : Decoder Action := fun node =>
  let record :=
    (Record.field "prompt" Decoder.string).both (Record.field "variable" Decoder.string)
  (fun (prompt, name) => ask prompt name) <$>
    record.decoder "struct variant Action::Ask" node

def setDecoder : Decoder Action := fun node =>
  let record :=
    (Record.field "variable" Decoder.string).both (Record.field "value" SetValue.decoder)
  (fun (name, value) => set name value) <$>
    record.decoder "struct variant Action::Set" node

def decoder : Decoder Action :=
  Variant.decoder
    [⟨"Say", .record sayDecoder⟩, ⟨"Ask", .record askDecoder⟩,
      ⟨"Set", .record setDecoder⟩, ⟨"End", .nothing finish⟩]

end Action

namespace Block

def encode (block : Block) : Value :=
  .object [("name", .string block.name), ("actions", .array (block.actions.map Action.encode))]

def decoder : Decoder Block := fun node =>
  let record :=
    (Record.field "name" Decoder.string).both
      (Record.field "actions" (Decoder.list Action.decoder))
  (fun (name, actions) => ⟨name, actions⟩) <$> record.decoder "struct IntentDef" node

end Block

namespace Bot

def encode (bot : Bot) : Value :=
  .object [("name", .string bot.name),
    ("intents", .object (bot.intents.toList.map fun (name, block) => (name, block.encode))),
    ("default_intent", (bot.defaultBlock.map Block.encode).getD .null)]

def decoder : Decoder Bot := fun node =>
  let record :=
    (Record.field "name" Decoder.string).both <|
      (Record.field "intents" (Decoder.map Block.decoder)).both <|
        Record.field "default_intent" (Decoder.option Block.decoder)
          (some none) .optionalInObject
  (fun (name, intents, defaultBlock) => ⟨name, .ofList intents, defaultBlock⟩) <$>
    record.decoder "struct BotDef" node

end Bot

end Dialogue
