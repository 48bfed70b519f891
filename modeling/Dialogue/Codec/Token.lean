import Dialogue.Json.Decode
import Dialogue.Json.Value
import Dialogue.Token

/-!
# Tokens as JSON
-/

namespace Dialogue

open Json

namespace TokenKind

def encode (kind : TokenKind) : Value :=
  match kind with
  | string value => .object [(kind.label, .string value)]
  | identifier name => .object [(kind.label, .string name)]
  | _ => .string kind.label

def bare (kind : TokenKind) : Variant TokenKind :=
  ⟨kind.label, .nothing kind⟩

def decoder : Decoder TokenKind :=
  Variant.decoder <|
    Keyword.all.map (fun word => bare (keyword word)) ++
      [⟨"String", .value fun node => string <$> Decoder.string node⟩,
        ⟨"Identifier", .value fun node => identifier <$> Decoder.string node⟩,
        bare leftBrace, bare rightBrace, bare equal]

end TokenKind

namespace Token

def encode (token : Token) : Value :=
  .object [("kind", token.kind.encode), ("lexeme", .string token.lexeme),
    ("line", .natural token.position.line), ("column", .natural token.position.column)]

def decoder : Decoder Token := fun node =>
  let record :=
    (Record.field "kind" TokenKind.decoder).both <|
      (Record.field "lexeme" Decoder.string).both <|
        (Record.field "line" Decoder.natural).both (Record.field "column" Decoder.natural)
  (fun (kind, lexeme, line, column) => ⟨kind, lexeme, ⟨line, column⟩⟩) <$>
    record.decoder "struct Token" node

end Token

end Dialogue
