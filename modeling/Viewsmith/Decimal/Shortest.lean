/-!
# Shortest decimals of a double

Many decimals round to one double. The shortest of them is written: on the coarsest decimal grid
that has a point in the interval of reals rounding to the double, the point nearest to it. All
arithmetic is on natural numbers; where the double lies halfway between two points of the grid, the
caller says which one is taken.
-/

namespace Viewsmith.Decimal

/-! ## Taking a double apart -/

/-- A finite double: its magnitude is `mantissa * 2 ^ exponent`. -/
structure Parts : Type where
  negative : Bool
  mantissa : Nat
  exponent : Int
deriving DecidableEq, Repr

/-- The leading bit of a mantissa, which is not stored: the 52nd power of two. -/
def hiddenBit : Nat := 0x10000000000000

def parts (x : Float) : Parts :=
  let bits : Nat := x.toBits.toNat
  let field : Nat := bits / hiddenBit % 0x800
  let fraction : Nat := bits % hiddenBit
  { negative := bits / 0x8000000000000000 = 1
    mantissa := if field = 0 then fraction else hiddenBit + fraction
    exponent := if field = 0 then -1074 else (field : Int) - 1075 }

/-- The reals that round to a double, as multiples of `unit / den`. The ends belong to the interval
when the mantissa is even, because rounding takes halves to even mantissas. -/
structure Interval : Type where
  low : Nat
  value : Nat
  high : Nat
  closed : Bool
  unit : Nat
  den : Nat

/-- The interval of a positive double. In units of a quarter of the last place the neighbours are
four away, so half of the way is two; below a power of two the spacing is only half as wide. -/
def interval (p : Parts) : Interval :=
  let gap := if p.mantissa = hiddenBit ∧ p.exponent ≠ -1074 then 1 else 2
  { low := 4 * p.mantissa - gap
    value := 4 * p.mantissa
    high := 4 * p.mantissa + 2
    closed := p.mantissa % 2 = 0
    unit := Nat.pow 2 (p.exponent - 2).toNat
    den := Nat.pow 2 (2 - p.exponent).toNat }

/-! ## Points of a decimal grid -/

/-- A decimal: `digits * 10 ^ exponent`. -/
structure Scaled : Type where
  digits : Nat
  exponent : Int
deriving DecidableEq, Repr

/-- What is taken when a number lies exactly between two points of the grid. -/
inductive Tie : Type where
  | up    -- the larger point
  | even  -- the point with an even last digit
deriving DecidableEq, Repr

def Interval.contains (i : Interval) (s : Scaled) : Bool :=
  let point := s.digits * Nat.pow 10 s.exponent.toNat * i.den
  let scale := i.unit * Nat.pow 10 (-s.exponent).toNat
  if i.closed then i.low * scale ≤ point ∧ point ≤ i.high * scale
  else i.low * scale < point ∧ point < i.high * scale

/-- The point of the grid of step `10 ^ exponent` that is nearest to the value among its two
neighbours there, if the interval holds one of them. -/
def Interval.nearest? (i : Interval) (tie : Tie) (exponent : Int) : Option Scaled :=
  let num := i.value * i.unit * Nat.pow 10 (-exponent).toNat
  let den := i.den * Nat.pow 10 exponent.toNat
  let floor := num / den
  let below : Scaled := ⟨floor, exponent⟩
  let above : Scaled := ⟨floor + 1, exponent⟩
  let preferAbove : Bool :=
    match compare (2 * (num % den)) den with
    | .lt => false
    | .gt => true
    | .eq => tie == .up || floor % 2 == 1
  match i.contains below, i.contains above with
  | true, true => some (bif preferAbove then above else below)
  | true, false => some below
  | false, true => some above
  | false, false => none

def digitCount (n : Nat) : Nat := (Nat.toDigits 10 n).length

/-- The exponent of the first decimal digit of the positive number `num / den`. -/
def leadingExponent (num den : Nat) : Int :=
  if den ≤ num then (digitCount (num / den) : Int) - 1
  else -(digitCount ((den - 1) / num) : Int)

/-- Drops trailing zeros, raising the exponent; `fuel` bounds their number. -/
def trimZeros : Nat → Scaled → Scaled
  | 0, s => s
  | fuel + 1, s =>
      if s.digits ≠ 0 ∧ s.digits % 10 = 0 then trimZeros fuel ⟨s.digits / 10, s.exponent + 1⟩
      else s

/-- The shortest decimal that rounds to a positive double. Seventeen digits always suffice. -/
def shortest (tie : Tie) (p : Parts) : Scaled :=
  let i := interval p
  let lead := leadingExponent (i.value * i.unit) i.den
  let found := (List.range 17).findSome? fun (n : Nat) => i.nearest? tie (lead - Int.ofNat n)
  trimZeros 17 (found.getD ⟨0, 0⟩)

end Viewsmith.Decimal
