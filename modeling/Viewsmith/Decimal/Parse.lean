import Viewsmith.Decimal.Digits

/-!
# Reading a number text

A number text is a decimal with an optional sign, fraction and exponent, or one of the words `inf`,
`infinity` and `nan` in any case. The nearest double is taken, halves going to the even one.
-/

namespace Viewsmith.Decimal

/-- The double nearest to `significand * 10 ^ exponent`. Far beyond the range of doubles the answer
is known without forming the power. -/
def nearestDouble (significand : Nat) (exponent : Int) : Float :=
  let lead := exponent + ((Nat.toDigits 10 significand).length : Int)
  if significand = 0 ∨ lead < -400 then 0
  else if 400 < lead then Float.ofBits 0x7FF0000000000000
  else Float.ofScientific significand (exponent < 0) exponent.natAbs

/-- Splits an optional sign off a text; `true` is a minus. -/
def splitSign : List Char → Bool × List Char
  | '+' :: rest => (false, rest)
  | '-' :: rest => (true, rest)
  | text => (false, text)

def parseExponent? : List Char → Option Int
  | [] => some 0
  | e :: rest =>
      if e = 'e' ∨ e = 'E' then
        let (negative, digits) := splitSign rest
        if digits.isEmpty || !digits.all Char.isDigit then none
        else some (if negative then -(digitsValue digits : Int) else digitsValue digits)
      else none

/-- Reads an unsigned decimal: digits with an optional point, of which at least one digit, and an
optional exponent. -/
def parseMagnitude? (text : List Char) : Option Float :=
  let whole := text.takeWhile Char.isDigit
  let afterWhole := text.dropWhile Char.isDigit
  let (fraction, rest) :=
    match afterWhole with
    | '.' :: more => (more.takeWhile Char.isDigit, more.dropWhile Char.isDigit)
    | _ => ([], afterWhole)
  if whole.isEmpty && fraction.isEmpty then none
  else (parseExponent? rest).map fun exponent =>
    nearestDouble (digitsValue (whole ++ fraction)) (exponent - fraction.length)

def parse? (text : String) : Option Float :=
  let (negative, rest) := splitSign text.toList
  let word := String.ofList (rest.map Char.toLower)
  let magnitude :=
    if word = "inf" ∨ word = "infinity" then some (Float.ofBits 0x7FF0000000000000)
    else if word = "nan" then some (Float.ofBits 0x7FF8000000000000)
    else parseMagnitude? rest
  magnitude.map fun x => if negative then -x else x

end Viewsmith.Decimal
