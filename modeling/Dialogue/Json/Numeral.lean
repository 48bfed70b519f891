import Dialogue.Json.Error

/-!
# Numerals of a JSON text

How a number is written: a sign, the digits of the whole part, and perhaps a
fraction and an exponent.
-/

namespace Dialogue.Json

structure Exponent where
  negative : Bool
  digits : List Char
  deriving DecidableEq, Repr

structure Numeral where
  negative : Bool
  whole : List Char
  fraction : Option (List Char)
  exponent : Option Exponent
  deriving DecidableEq, Repr

/-- Why a text that begins as a numeral is none: it ends too soon, or goes on with
something else. -/
inductive NumeralFault where
  | endOfText
  | malformed
  deriving DecidableEq, Repr

def NumeralFault.error : NumeralFault → Error
  | endOfText => .endInValue
  | malformed => .invalidNumber

namespace Numeral

def readDigits (text : List Char) : Except NumeralFault (List Char × List Char) :=
  match text with
  | [] => .error .endOfText
  | c :: rest =>
      if c.isDigit then
        .ok (c :: rest.takeWhile Char.isDigit, rest.dropWhile Char.isDigit)
      else
        .error .malformed

def readSign : List Char → Bool × List Char
  | '-' :: rest => (true, rest)
  | text => (false, text)

/-- The whole part: a zero in front of other digits is not allowed. -/
def readWhole (text : List Char) : Except NumeralFault (List Char × List Char) := do
  let (digits, rest) ← readDigits text
  match digits with
  | '0' :: _ :: _ => .error .malformed
  | _ => .ok (digits, rest)

def readFraction : List Char → Except NumeralFault (Option (List Char) × List Char)
  | '.' :: text => do
      let (digits, rest) ← readDigits text
      return (some digits, rest)
  | text => .ok (none, text)

def readPowerSign : List Char → Bool × List Char
  | '+' :: rest => (false, rest)
  | text => readSign text

def readPower (text : List Char) : Except NumeralFault (Option Exponent × List Char) := do
  let (negative, text) := readPowerSign text
  let (digits, rest) ← readDigits text
  return (some ⟨negative, digits⟩, rest)

def readExponent : List Char → Except NumeralFault (Option Exponent × List Char)
  | 'e' :: text => readPower text
  | 'E' :: text => readPower text
  | text => .ok (none, text)

def read (text : List Char) : Except NumeralFault (Numeral × List Char) := do
  let (negative, text) := readSign text
  let (whole, text) ← readWhole text
  let (fraction, text) ← readFraction text
  let (exponent, text) ← readExponent text
  return (⟨negative, whole, fraction, exponent⟩, text)

theorem readDigits_length {text digits rest : List Char}
    (read : readDigits text = .ok (digits, rest)) : rest.length < text.length := by
  unfold readDigits at read
  split at read
  · cases read
  · split at read <;> cases read
    exact Nat.lt_succ_of_le (List.dropWhile_sublist _).length_le

theorem readSign_length (text : List Char) : (readSign text).2.length ≤ text.length := by
  unfold readSign
  split <;> simp

theorem readWhole_length {text digits rest : List Char}
    (read : readWhole text = .ok (digits, rest)) : rest.length < text.length := by
  cases found : readDigits text with
  | error fault => simp [readWhole, found, bind, Except.bind] at read
  | ok taken =>
      have shorter := readDigits_length found
      simp only [readWhole, found, bind, Except.bind] at read
      split at read <;> cases read
      exact shorter

theorem readFraction_length {text rest : List Char} {fraction : Option (List Char)}
    (read : readFraction text = .ok (fraction, rest)) : rest.length ≤ text.length := by
  unfold readFraction at read
  split at read
  · rename_i text
    cases found : readDigits text with
    | error fault => simp [found, bind, Except.bind] at read
    | ok taken =>
        have shorter := readDigits_length found
        simp only [found, bind, Except.bind, pure, Except.pure] at read
        cases read
        simp
        omega
  · cases read
    exact Nat.le_refl _

theorem readPowerSign_length (text : List Char) :
    (readPowerSign text).2.length ≤ text.length := by
  unfold readPowerSign
  split
  · simp
  · exact readSign_length _

theorem readPower_length {text rest : List Char} {exponent : Option Exponent}
    (read : readPower text = .ok (exponent, rest)) : rest.length ≤ text.length := by
  have signed := readPowerSign_length text
  simp only [readPower, bind, Except.bind] at read
  split at read
  · cases read
  · rename_i taken found
    have shorter := readDigits_length found
    simp only [pure, Except.pure] at read
    cases read
    omega

theorem readExponent_length {text rest : List Char} {exponent : Option Exponent}
    (read : readExponent text = .ok (exponent, rest)) : rest.length ≤ text.length := by
  unfold readExponent at read
  split at read
  · exact Nat.le_succ_of_le (readPower_length read)
  · exact Nat.le_succ_of_le (readPower_length read)
  · cases read
    exact Nat.le_refl _

theorem read_length {text rest : List Char} {numeral : Numeral}
    (found : read text = .ok (numeral, rest)) : rest.length < text.length := by
  have signed := readSign_length text
  simp only [read, bind, Except.bind] at found
  split at found
  · cases found
  · rename_i whole wholeRead
    split at found
    · cases found
    · rename_i fraction fractionRead
      split at found
      · cases found
      · rename_i exponent exponentRead
        have first := readWhole_length wholeRead
        have second := readFraction_length fractionRead
        have third := readExponent_length exponentRead
        simp only [pure, Except.pure] at found
        cases found
        omega

end Numeral

end Dialogue.Json
