import Dialogue.Json.Error

/-!
# Strings of a JSON text

A string is read in two steps.  `RawText.read` finds its end and takes its
escapes apart, which is all that a string in a skipped value needs.
`RawText.decode` joins surrogate pairs and gives the string that is meant.
-/

namespace Dialogue.Json

/-- A piece of a string: a character, plain or after a backslash, or a code unit
given by four digits. -/
inductive TextUnit where
  | character (c : Char)
  | code (unit : Nat)
  deriving DecidableEq, Repr

inductive TextFault where
  | endOfText
  | badEscape
  | badDigits
  | control
  deriving DecidableEq, Repr

def TextFault.error : TextFault → Error
  | endOfText => .endInString
  | badEscape => .invalidEscape
  | badDigits => .invalidEscape
  | control => .controlCharacter

structure RawText where
  units : List TextUnit
  fault : Option TextFault
  deriving DecidableEq, Repr

namespace RawText

def empty : RawText :=
  ⟨[], none⟩

def broken (fault : TextFault) : RawText :=
  ⟨[], some fault⟩

def push (unit : TextUnit) (text : RawText) : RawText :=
  { text with units := unit :: text.units }

def escape? : Char → Option Char
  | '"' => some '"'
  | '\\' => some '\\'
  | '/' => some '/'
  | 'b' => some '\x08'
  | 'f' => some '\x0C'
  | 'n' => some '\n'
  | 'r' => some '\r'
  | 't' => some '\t'
  | _ => none

def hexValue? (c : Char) : Option Nat :=
  if '0' ≤ c ∧ c ≤ '9' then some (c.toNat - '0'.toNat)
  else if 'a' ≤ c ∧ c ≤ 'f' then some (c.toNat - 'a'.toNat + 10)
  else if 'A' ≤ c ∧ c ≤ 'F' then some (c.toNat - 'A'.toNat + 10)
  else none

def codeUnit? (a b c d : Char) : Option Nat := do
  let a ← hexValue? a
  let b ← hexValue? b
  let c ← hexValue? c
  let d ← hexValue? d
  return ((a * 16 + b) * 16 + c) * 16 + d

def byteCount : List Char → Nat
  | [] => 0
  | c :: rest => c.utf8Size + byteCount rest

/-- Reads a string from after its opening quote, and gives the text after its
closing one.  Fewer than four bytes after `\u` are the end of the text. -/
def read : List Char → RawText × List Char
  | [] => (broken .endOfText, [])
  | '"' :: rest => (empty, rest)
  | '\\' :: 'u' :: a :: b :: c :: d :: rest =>
      match codeUnit? a b c d with
      | some unit =>
          let (text, rest) := read rest
          (text.push (.code unit), rest)
      | none => (broken .badDigits, [])
  | '\\' :: 'u' :: short =>
      if byteCount short < 4 then (broken .endOfText, [])
      else (broken .badDigits, [])
  | ['\\'] => (broken .endOfText, [])
  | '\\' :: c :: rest =>
      match escape? c with
      | some c =>
          let (text, rest) := read rest
          (text.push (.character c), rest)
      | none => (broken .badEscape, [])
  | c :: rest =>
      if c.toNat < 0x20 then
        (broken .control, [])
      else
        let (text, rest) := read rest
        (text.push (.character c), rest)

theorem read_length (text : List Char) : (read text).2.length ≤ text.length := by
  fun_induction read text <;> simp_all <;> omega

def isFirstHalf (unit : Nat) : Bool :=
  0xD800 ≤ unit && unit < 0xDC00

def isSecondHalf (unit : Nat) : Bool :=
  0xDC00 ≤ unit && unit < 0xE000

def pair (first second : Nat) : Char :=
  Char.ofNat ((first - 0xD800) * 0x400 + (second - 0xDC00) + 0x10000)

/-- The error when a first half is followed by no code unit at all: the text
goes on with something else, or it breaks there. -/
def halfPairError : Option TextFault → Error
  | some .endOfText => .endInString
  | some .badDigits => .invalidEscape
  | _ => .halfPair

def decodeUnits (fault : Option TextFault) : List TextUnit → Except Error (List Char)
  | [] =>
      match fault with
      | none => .ok []
      | some fault => .error fault.error
  | .character c :: units => (c :: ·) <$> decodeUnits fault units
  | .code unit :: units =>
      if isSecondHalf unit then
        .error .loneSurrogate
      else if isFirstHalf unit then
        match units with
        | .code second :: units =>
            if isSecondHalf second then (pair unit second :: ·) <$> decodeUnits fault units
            else .error .loneSurrogate
        | .character _ :: _ => .error .halfPair
        | [] => .error (halfPairError fault)
      else
        (Char.ofNat unit :: ·) <$> decodeUnits fault units

def decode (text : RawText) : Except Error String :=
  .ofList <$> decodeUnits text.fault text.units

/-- Whether the string may stand in a skipped value: halves of pairs do not matter
there. -/
def skip (text : RawText) : Except Error Unit :=
  match text.fault with
  | none => .ok ()
  | some fault => .error fault.error

end RawText

end Dialogue.Json
