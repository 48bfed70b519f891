import Dialogue.Keyword

/-!
# Tokens

The words of a script with the place where each one begins.
-/

namespace Dialogue

/-- A place in a text: lines and columns count from one, and a column counts
characters, not bytes. -/
structure Position where
  line : Nat
  column : Nat
  deriving DecidableEq, Repr

namespace Position

def start : Position := ⟨1, 1⟩

def next (position : Position) (c : Char) : Position :=
  if c = '\n' then ⟨position.line + 1, 1⟩
  else ⟨position.line, position.column + 1⟩

def after (position : Position) (text : List Char) : Position :=
  text.foldl next position

@[simp] theorem after_nil (position : Position) : position.after [] = position := rfl

@[simp] theorem after_cons (position : Position) (c : Char) (text : List Char) :
    position.after (c :: text) = (position.next c).after text := rfl

theorem after_append (position : Position) (first second : List Char) :
    position.after (first ++ second) = (position.after first).after second :=
  List.foldl_append

end Position

inductive TokenKind where
  | keyword (word : Keyword)
  | string (value : String)
  | identifier (name : String)
  | leftBrace
  | rightBrace
  | equal
  deriving DecidableEq, Repr

namespace TokenKind

def text : TokenKind → String
  | keyword word => word.text
  | string value => "\"" ++ value ++ "\""
  | identifier name => name
  | leftBrace => "\x7b"
  | rightBrace => "\x7d"
  | equal => "="

def describe : TokenKind → String
  | keyword word => "keyword `" ++ word.text ++ "`"
  | string value => "string \"" ++ value ++ "\""
  | identifier name => "identifier `" ++ name ++ "`"
  | leftBrace => "`\x7b`"
  | rightBrace => "`\x7d`"
  | equal => "`=`"

def label : TokenKind → String
  | keyword word => word.label
  | string _ => "String"
  | identifier _ => "Identifier"
  | leftBrace => "LeftBrace"
  | rightBrace => "RightBrace"
  | equal => "Equal"

def isKeyword : TokenKind → Bool
  | keyword _ => true
  | _ => false

end TokenKind

/-- A token, the text it was read from (a string without its quotes), and where
it begins. -/
structure Token where
  kind : TokenKind
  lexeme : String
  position : Position
  deriving DecidableEq, Repr

end Dialogue
