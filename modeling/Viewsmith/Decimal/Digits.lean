/-!
# Runs of digits

The value of a run of ASCII digits, the highest place first.
-/

namespace Viewsmith.Decimal

def digitValue (c : Char) : Nat := c.toNat - '0'.toNat

def digitsValue (digits : List Char) : Nat :=
  digits.foldl (fun value c => 10 * value + digitValue c) 0

end Viewsmith.Decimal
