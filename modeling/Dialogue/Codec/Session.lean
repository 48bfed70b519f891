import Dialogue.Json.Decode
import Dialogue.Json.Value
import Dialogue.Session

/-!
# Phases of a session as JSON
-/

namespace Dialogue.Phase

open Json

def encode : Phase → Value
  | idle => .string "Idle"
  | awaiting name => .object [("AwaitingInput", .object [("variable", .string name)])]

def awaitingDecoder : Decoder Phase := fun node =>
  awaiting <$> (Record.field "variable" Decoder.string).decoder
    "struct variant SessionPhase::AwaitingInput" node

def decoder : Decoder Phase :=
  Variant.decoder
    [⟨"Idle", .nothing idle⟩, ⟨"AwaitingInput", .record awaitingDecoder⟩]

end Dialogue.Phase
