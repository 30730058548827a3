import Viewsmith.Decimal.Digits

/-!
# Numerals

A numeral of a document is kept as its digits until a value is wanted. Whole numbers of 64 bits are
exact. Any other numeral is read the quick way: its first digits, as many as fit 64 bits, become a
double, which is multiplied or divided once by a power of ten. The result may differ from the
nearest double in the last place.
-/

namespace Viewsmith.Json

open Decimal

/-- A numeral as written: `-12.5e+3` has the whole digits `12`, the fraction digits `5` and the
exponent `(false, 3)`, where `true` would be a minus sign. -/
structure Numeral : Type where
  negative : Bool
  whole : List Char
  fraction : List Char
  exponent : Option (Bool × List Char)
deriving DecidableEq, Repr

inductive Number : Type where
  | natural (value : Nat)           -- below `2 ^ 64`
  | negative (magnitude : Nat)      -- `-magnitude`, from 1 to `2 ^ 63`
  | real (value : Float)
deriving DecidableEq

def Number.toFloat : Number → Float
  | .natural n => n.toUInt64.toFloat
  | .negative n => -n.toUInt64.toFloat
  | .real x => x

/-! ## Reading -/

inductive NumeralScan : Type where
  | read (numeral : Numeral) (rest : List Char)
  | malformed
  | cut              -- the text ends where a digit should stand

def scanExponent (negative : Bool) (whole fraction text : List Char) : NumeralScan :=
  match text with
  | e :: rest =>
      if e = 'e' ∨ e = 'E' then
        let (minus, rest) :=
          match rest with
          | '+' :: rest => (false, rest)
          | '-' :: rest => (true, rest)
          | _ => (false, rest)
        match rest with
        | [] => .cut
        | d :: _ =>
            if d.isDigit then
              .read ⟨negative, whole, fraction, some (minus, rest.takeWhile Char.isDigit)⟩
                (rest.dropWhile Char.isDigit)
            else .malformed
      else .read ⟨negative, whole, fraction, none⟩ text
  | [] => .read ⟨negative, whole, fraction, none⟩ []

def scanFraction (negative : Bool) (whole text : List Char) : NumeralScan :=
  match text with
  | '.' :: rest =>
      match rest with
      | [] => .cut
      | d :: _ =>
          if d.isDigit then
            scanExponent negative whole (rest.takeWhile Char.isDigit)
              (rest.dropWhile Char.isDigit)
          else .malformed
  | _ => scanExponent negative whole [] text

/-- Reads a numeral after its sign. Only the numeral zero begins with the digit zero. -/
def scanDigits (negative : Bool) (text : List Char) : NumeralScan :=
  match text with
  | [] => .cut
  | '0' :: rest =>
      match rest with
      | d :: _ => if d.isDigit then .malformed else scanFraction negative ['0'] rest
      | [] => scanFraction negative ['0'] []
  | d :: _ =>
      if d.isDigit then
        scanFraction negative (text.takeWhile Char.isDigit) (text.dropWhile Char.isDigit)
      else .malformed

def scanNumeral (text : List Char) : NumeralScan :=
  match text with
  | '-' :: rest => scanDigits true rest
  | _ => scanDigits false text

/-! ## Value -/

/-- The first number that does not fit 64 bits. -/
def wordLimit : Nat := 0x10000000000000000

/-- Appends digits to a significand while it fits 64 bits; also gives the digits left over. -/
def gather (significand : Nat) : List Char → Nat × List Char
  | [] => (significand, [])
  | c :: rest =>
      let next := 10 * significand + digitValue c
      if next < wordLimit then gather next rest else (significand, c :: rest)

def powerOfTen (n : Nat) : Float := Float.ofScientific 1 false n

/-- Divides by `10 ^ places`, in steps of `10 ^ 308`; `fuel` bounds the steps. -/
def divideByPower : Nat → Float → Nat → Float
  | 0, x, _ => x
  | fuel + 1, x, places =>
      if places ≤ 308 then x / powerOfTen places
      else if x == 0 then x
      else divideByPower fuel (x / powerOfTen 308) (places - 308)

/-- `significand * 10 ^ exponent`, or nothing beyond the range of doubles. -/
def scale? (significand : Nat) (exponent : Int) : Option Float :=
  let x := significand.toUInt64.toFloat
  match exponent with
  | .ofNat places =>
      if places ≤ 308 then
        let y := x * powerOfTen places
        if y.isInf then none else some y
      else if significand = 0 then some x
      else none
  | .negSucc places => some (divideByPower (places + 1) x (places + 1))

/-- The largest exponent that is taken at its value. -/
def exponentLimit : Nat := 0x7FFFFFFF

/-- The magnitude of a numeral that is no 64-bit whole number. -/
def Numeral.magnitude? (n : Numeral) : Option Float :=
  let (wholePart, dropped) := gather 0 n.whole
  let (significand, unread) := gather wholePart n.fraction
  let exponent : Int := (dropped.length : Int) - ((n.fraction.length - unread.length : Nat) : Int)
  match n.exponent with
  | none => scale? significand exponent
  | some (minus, digits) =>
      let written := digitsValue digits
      if exponentLimit < written then
        if significand = 0 ∨ minus then some 0 else none
      else scale? significand (if minus then exponent - written else exponent + written)

/-- The value of a numeral, or nothing beyond the range of doubles. A negative zero is a double. -/
def Numeral.value? (n : Numeral) : Option Number :=
  let (significand, dropped) := gather 0 n.whole
  if n.fraction.isEmpty ∧ n.exponent.isNone ∧ dropped.isEmpty then
    if n.negative then
      if significand = 0 ∨ wordLimit / 2 < significand then
        some (.real (-significand.toUInt64.toFloat))
      else some (.negative significand)
    else some (.natural significand)
  else
    n.magnitude?.map fun x => .real (if n.negative then -x else x)

end Viewsmith.Json
