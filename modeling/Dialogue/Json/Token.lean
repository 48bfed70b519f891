import Dialogue.Json.Number
import Dialogue.Json.Text

/-!
# Tokens of a JSON text

A JSON text as a list of tokens.  Strings, numerals and words that are wrong are
tokens as well, so that a fault is reported only where it is met; the list ends
with the first piece that has no end.
-/

namespace Dialogue.Json

inductive Atom where
  | null
  | bool (value : Bool)
  | string (text : RawText)
  | numeral (numeral : Numeral)
  | badNumeral (fault : NumeralFault)
  /-- A misspelt word; `ended` if it is only cut short by the end of the text. -/
  | badWord (ended : Bool)
  deriving DecidableEq, Repr

inductive Token where
  | openBrace
  | closeBrace
  | openBracket
  | closeBracket
  | colon
  | comma
  | atom (atom : Atom)
  | stray
  deriving DecidableEq, Repr

namespace Token

def isBlank (c : Char) : Bool :=
  c == ' ' || c == '\n' || c == '\t' || c == '\r'

def readWord (atom : Atom) : (letters text : List Char) → Token × List Char
  | [], text => (.atom atom, text)
  | _ :: _, [] => (.atom (.badWord true), [])
  | letter :: letters, c :: text =>
      if c = letter then readWord atom letters text else (.atom (.badWord false), [])

def readNumeral (text : List Char) : Token × List Char :=
  match Numeral.read text with
  | .ok (numeral, rest) => (.atom (.numeral numeral), rest)
  | .error fault => (.atom (.badNumeral fault), [])

def readString (text : List Char) : Token × List Char :=
  let (string, rest) := RawText.read text
  (.atom (.string string), rest)

def read (c : Char) (rest : List Char) : Token × List Char :=
  match c with
  | '\x7b' => (openBrace, rest)
  | '\x7d' => (closeBrace, rest)
  | '[' => (openBracket, rest)
  | ']' => (closeBracket, rest)
  | ':' => (colon, rest)
  | ',' => (comma, rest)
  | '"' => readString rest
  | 'n' => readWord .null ['u', 'l', 'l'] rest
  | 't' => readWord (.bool true) ['r', 'u', 'e'] rest
  | 'f' => readWord (.bool false) ['a', 'l', 's', 'e'] rest
  | _ => if c = '-' ∨ c.isDigit then readNumeral (c :: rest) else (stray, [])

theorem readWord_length (atom : Atom) (letters text : List Char) :
    (readWord atom letters text).2.length ≤ text.length := by
  fun_induction readWord atom letters text <;> simp_all
  omega

theorem readNumeral_length (c : Char) (text : List Char) :
    (readNumeral (c :: text)).2.length ≤ text.length := by
  unfold readNumeral
  split
  · rename_i found
    exact Nat.le_of_lt_succ (Numeral.read_length found)
  · exact Nat.zero_le _

theorem read_length (c : Char) (rest : List Char) :
    (read c rest).2.length ≤ rest.length := by
  unfold read
  split
  all_goals first
    | exact Nat.le_refl _
    | exact RawText.read_length _
    | exact readWord_length _ _ _
    | skip
  split
  · exact readNumeral_length _ _
  · exact Nat.zero_le _

def all (text : List Char) : List Token :=
  match text with
  | [] => []
  | c :: rest =>
      if isBlank c then
        all rest
      else
        (read c rest).1 :: all (read c rest).2
termination_by text.length
decreasing_by
  · simp
  · exact Nat.lt_succ_of_le (read_length c rest)

end Token

end Dialogue.Json
