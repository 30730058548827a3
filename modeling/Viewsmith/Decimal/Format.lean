import Viewsmith.Decimal.Shortest

/-!
# Number texts

Two layouts of the shortest decimal. In generated code a number is always written positionally and
a whole number has no fraction. In documents a number between `0.00001` and `10000000000000000` is
positional and always has a fraction; beyond, it is written with an exponent.
-/

namespace Viewsmith.Decimal

def digitChars (n : Nat) : List Char := Nat.toDigits 10 n

/-- Writes `digits * 10 ^ exponent` positionally. A whole number gets `whole` appended. -/
def positional (whole : List Char) (s : Scaled) : List Char :=
  let digits := digitChars s.digits
  if 0 ≤ s.exponent then
    digits ++ List.replicate s.exponent.toNat '0' ++ whole
  else
    let places := (-s.exponent).toNat
    let padded := List.replicate (places + 1 - digits.length) '0' ++ digits
    padded.take (padded.length - places) ++ '.' :: padded.drop (padded.length - places)

/-- Writes `digits * 10 ^ exponent` with one digit before the point and a signed exponent. -/
def scientific (s : Scaled) : List Char :=
  let digits := digitChars s.digits
  let exponent := s.exponent + (digits.length - 1 : Nat)
  let fraction :=
    match digits.drop 1 with
    | [] => []
    | more => '.' :: more
  let sign := if exponent < 0 then '-' else '+'
  digits.take 1 ++ fraction ++ 'e' :: sign :: digitChars exponent.natAbs

def signed (negative : Bool) (text : List Char) : List Char :=
  if negative then '-' :: text else text

/-! ## Numbers in generated code -/

/-- A finite number in generated code: `16`, `0.5`, `-0`. Halves go up. -/
def plainChars (x : Float) : List Char :=
  let p := parts x
  signed p.negative (if p.mantissa = 0 then ['0'] else positional [] (shortest .up p))

def codeText (x : Float) : String :=
  if x.isNaN then "NaN"
  else if x.isInf then (if x < 0 then "-Infinity" else "Infinity")
  else String.ofList (plainChars x)

def messageText (x : Float) : String :=
  if x.isNaN then "NaN"
  else if x.isInf then (if x < 0 then "-inf" else "inf")
  else String.ofList (plainChars x)

/-! ## Numbers in documents -/

/-- A finite number in a document: `16.0`, `0.00001`, `1e+21`. Halves go to even digits. -/
def documentChars (x : Float) : List Char :=
  let p := parts x
  let magnitude :=
    if p.mantissa = 0 then ['0', '.', '0']
    else
      let s := shortest .even p
      let lead := s.exponent + (digitCount s.digits : Int) - 1
      if -5 ≤ lead ∧ lead < 16 then positional ['.', '0'] s else scientific s
  signed p.negative magnitude

/-- The text of a number in a document. Documents have no spelling for non-finite numbers. -/
def documentText (x : Float) : String :=
  if x.isFinite then String.ofList (documentChars x) else "null"

end Viewsmith.Decimal
