import Dialogue.Text.Quoted.Table

/-!
# Quoted texts

A text in quotes with every character visible: the usual controls have short
escapes, and what would not show as itself is written by its code point.
-/

namespace Dialogue.Text

def joins (c : Char) : Bool :=
  graphemeExtend.contains c && !separateMarks.contains c

def isVisible (c : Char) : Bool :=
  !(joins c || invisible.contains c || defaultIgnorable.contains c)

def hexDigits (n : Nat) : List Char :=
  Nat.toDigits 16 n

def escaped (c : Char) : List Char :=
  match c with
  | '\x00' => ['\\', '0']
  | '\t' => ['\\', 't']
  | '\n' => ['\\', 'n']
  | '\r' => ['\\', 'r']
  | '"' => ['\\', '"']
  | '\\' => ['\\', '\\']
  | ' ' => [' ']
  | _ =>
      if isVisible c then
        [c]
      else
        ['\\', 'u', '\x7b'] ++ hexDigits c.toNat ++ ['\x7d']

def quoted (text : String) : String :=
  .ofList ('"' :: text.toList.flatMap escaped ++ ['"'])

end Dialogue.Text
