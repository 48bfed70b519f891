import Dialogue.Decimal.Shortest
import Dialogue.Json.Numeral

/-!
# Numbers of a JSON text

What a numeral stands for: an integer if it is written as one and fits into 64
bits, and else a double.
-/

namespace Dialogue.Json

inductive Number where
  | natural (n : Nat)
  | negative (distance : Nat)
  | float (value : Float)

namespace Number

def maxNatural : Nat := 0xFFFFFFFFFFFFFFFF

def maxNegative : Nat := 0x8000000000000000

def maxPower : Nat := 0x7FFFFFFF

def digitValue (c : Char) : Nat :=
  c.toNat - '0'.toNat

/-- Appends digits to a number for as long as it fits below a limit: the number,
and the digits that were not taken. -/
def gather (limit : Nat) (n : Nat) : List Char → Nat × List Char
  | [] => (n, [])
  | c :: digits =>
      let longer := n * 10 + digitValue c
      if limit < longer then (n, c :: digits) else gather limit longer digits

def powerOfTen (power : Nat) : Float :=
  .ofScientific 1 false power

/-- Divides by a power of ten, in steps no greater than the greatest power that
a double can hold. -/
def divideByPower (value : Float) (power : Nat) : Float :=
  if power ≤ 308 then value / powerOfTen power
  else if value == 0 then value
  else divideByPower (value / powerOfTen 308) (power - 308)
termination_by power
decreasing_by omega

def scale (digits : Nat) (power : Int) : Except Error Float :=
  let value := Float.ofNat digits
  if power < 0 then
    .ok (divideByPower value power.natAbs)
  else if power ≤ 308 then
    let scaled := value * powerOfTen power.toNat
    if scaled.isInf then .error .numberOutOfRange else .ok scaled
  else if digits = 0 then
    .ok value
  else
    .error .numberOutOfRange

def scaleBy (digits : Nat) (power : Int) : Option Exponent → Except Error Float
  | none => scale digits power
  | some exponent =>
      match gather maxPower 0 exponent.digits with
      | (value, []) =>
          scale digits (if exponent.negative then power - value else power + value)
      | (_, _ :: _) =>
          if digits ≠ 0 ∧ !exponent.negative then .error .numberOutOfRange else .ok 0

def signed (negative : Bool) (value : Float) : Float :=
  if negative then -value else value

end Number

/-- The number that a numeral stands for.  Digits that do not fit into 64 bits are
dropped: those of the whole part still count as places. -/
def Numeral.number (numeral : Numeral) : Except Error Number :=
  let (whole, dropped) := Number.gather Number.maxNatural 0 numeral.whole
  match numeral.fraction, numeral.exponent, dropped with
  | none, none, [] =>
      if !numeral.negative then
        .ok (.natural whole)
      else if 0 < whole ∧ whole ≤ Number.maxNegative then
        .ok (.negative whole)
      else
        .ok (.float (-(Float.ofNat whole)))
  | fraction, exponent, dropped =>
      let fraction := fraction.getD []
      let (digits, unused) := Number.gather Number.maxNatural whole fraction
      let power : Int := dropped.length - (fraction.length - unused.length : Nat)
      (Number.float ∘ Number.signed numeral.negative) <$>
        Number.scaleBy digits power exponent

namespace Number

def exponentText (power : Int) : String :=
  (if power < 0 then "e-" else "e+") ++ toString power.natAbs

def scientificText (number : Decimal.Scientific) : String :=
  let digits := Nat.toDigits 10 number.digits
  let places : Int := digits.length + number.exponent
  if 0 ≤ number.exponent ∧ places ≤ 16 then
    .ofList (digits ++ List.replicate number.exponent.toNat '0' ++ ['.', '0'])
  else if 0 < places ∧ places ≤ 16 then
    .ofList (digits.take places.toNat ++ '.' :: digits.drop places.toNat)
  else if -5 < places ∧ places ≤ 0 then
    .ofList (['0', '.'] ++ List.replicate (-places).toNat '0' ++ digits)
  else
    let point := if digits.length = 1 then [] else '.' :: digits.drop 1
    .ofList (digits.take 1 ++ point) ++ exponentText (places - 1)

def signBit : Nat := 0x8000000000000000

def floatText (value : Float) : String :=
  let bits := value.toBits.toNat
  let sign := if bits < signBit then "" else "-"
  if bits % signBit = 0 then sign ++ "0.0"
  else sign ++ scientificText (Decimal.shortest (bits % signBit))

def describe : Number → String
  | natural n => "integer `" ++ toString n ++ "`"
  | negative distance => "integer `-" ++ toString distance ++ "`"
  | float value => "floating point `" ++ floatText value ++ "`"

end Number

end Dialogue.Json
