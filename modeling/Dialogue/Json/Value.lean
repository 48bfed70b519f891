/-!
# JSON values and their two texts

`Value.compact` writes a value without any space, and `Value.pretty` puts each
item and field on a line of its own, two spaces deeper than its container.
-/

namespace Dialogue.Json

/-- A value that the library writes.  Fields keep their order. -/
inductive Value where
  | null
  | natural (n : Nat)
  | string (text : String)
  | array (items : List Value)
  | object (fields : List (String × Value))
  deriving Repr

def hexDigit (n : Nat) : Char :=
  if n < 10 then Char.ofNat ('0'.toNat + n) else Char.ofNat ('a'.toNat + (n - 10))

def escaped (c : Char) : List Char :=
  match c with
  | '"' => ['\\', '"']
  | '\\' => ['\\', '\\']
  | '\x08' => ['\\', 'b']
  | '\x0C' => ['\\', 'f']
  | '\n' => ['\\', 'n']
  | '\r' => ['\\', 'r']
  | '\t' => ['\\', 't']
  | _ =>
      if c.toNat < 0x20 then
        ['\\', 'u', '0', '0', hexDigit (c.toNat / 16), hexDigit (c.toNat % 16)]
      else
        [c]

def stringText (text : String) : List Char :=
  '"' :: text.toList.flatMap escaped ++ ['"']

def naturalText (n : Nat) : List Char :=
  Nat.toDigits 10 n

namespace Value

mutual

def compactChars : Value → List Char
  | null => ['n', 'u', 'l', 'l']
  | natural n => naturalText n
  | string text => stringText text
  | array items => '[' :: compactItems items ++ [']']
  | object fields => '\x7b' :: compactFields fields ++ ['\x7d']

def compactItems : List Value → List Char
  | [] => []
  | [item] => item.compactChars
  | item :: items => item.compactChars ++ ',' :: compactItems items

def compactFields : List (String × Value) → List Char
  | [] => []
  | [(key, value)] => stringText key ++ ':' :: value.compactChars
  | (key, value) :: fields =>
      stringText key ++ ':' :: value.compactChars ++ ',' :: compactFields fields

end

def compact (value : Value) : String :=
  .ofList value.compactChars

def newline (depth : Nat) : List Char :=
  '\n' :: List.replicate (2 * depth) ' '

mutual

def prettyChars (depth : Nat) : Value → List Char
  | null => ['n', 'u', 'l', 'l']
  | natural n => naturalText n
  | string text => stringText text
  | array [] => ['[', ']']
  | array (item :: items) =>
      '[' :: newline (depth + 1) ++ prettyItems (depth + 1) (item :: items) ++
        newline depth ++ [']']
  | object [] => ['\x7b', '\x7d']
  | object (field :: fields) =>
      '\x7b' :: newline (depth + 1) ++ prettyFields (depth + 1) (field :: fields) ++
        newline depth ++ ['\x7d']

def prettyItems (depth : Nat) : List Value → List Char
  | [] => []
  | [item] => item.prettyChars depth
  | item :: items =>
      item.prettyChars depth ++ ',' :: newline depth ++ prettyItems depth items

def prettyFields (depth : Nat) : List (String × Value) → List Char
  | [] => []
  | [(key, value)] => stringText key ++ ':' :: ' ' :: value.prettyChars depth
  | (key, value) :: fields =>
      stringText key ++ ':' :: ' ' :: value.prettyChars depth ++
        ',' :: newline depth ++ prettyFields depth fields

end

def pretty (value : Value) : String :=
  .ofList (value.prettyChars 0)

end Value

end Dialogue.Json
