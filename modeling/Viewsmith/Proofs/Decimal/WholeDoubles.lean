import Mathlib.Algebra.Order.Field.Power
import Mathlib.Data.Rat.Cast.Order
import Mathlib.Tactic.FieldSimp
import Mathlib.Tactic.Linarith
import Viewsmith.Json.Numeral
import Viewsmith.Proofs.Decimal.Doubles

/-!
# Whole numbers as doubles

A whole number becomes the double nearest to it (`toFloat_eq`), and so does a power of ten
(`powerOfTen_eq`). A product of such doubles stays within range as long as the exact product is below the
number that is half a step beyond the largest double (`isDouble_rounded`).
-/

namespace Viewsmith.Decimal

open Float.Model Float.Model.UnpackedFloat

/-! ## Values -/

/-- The number that parts stand for, without its sign. -/
def Parts.magnitude (p : Parts) : ℚ := p.mantissa * 2 ^ p.exponent

def Parts.value (p : Parts) : ℚ := bif p.negative then -p.magnitude else p.magnitude

/-- Rounding takes the nearest number of steps of the last place. -/
theorem magnitude_rounded {negative : Bool} {num den : Nat} {e : Int} (positive : 0 < den) :
    (rounded negative num den e).magnitude
      = nearestEven num (den * 2 ^ excess num den e) * 2 ^ (e + excess num den e) := by
  have most := @nearestEven_excess_le num den e positive
  rw [rounded, settle]
  split
  · rfl
  · rename_i carry
    have steps : nearestEven num (den * 2 ^ excess num den e) = 2 ^ 53 := by omega
    rw [Parts.magnitude, steps]
    simp only
    rw [zpow_add_one₀ (by norm_num)]
    push_cast
    ring

/-- Smaller steps to begin with do not matter. -/
theorem rounded_mul_two_pow {negative : Bool} {n : Nat} {e : Int} (full : 2 ^ 52 ≤ n) (k : Nat) :
    rounded negative (n * 2 ^ k) 1 (e - k) = rounded negative n 1 e := by
  have log : 52 ≤ n.log2 := (Nat.le_log2 (by omega)).mpr full
  have amount : excess (n * 2 ^ k) 1 (e - k) = excess n 1 e + k := by
    rw [excess, excess, Nat.div_one, Nat.div_one, log2_mul_two_pow (by omega)]
    omega
  have exponent : e - k + ((excess n 1 e + k : Nat) : Int) = e + excess n 1 e := by omega
  have steps : nearestEven (n * 2 ^ k) (1 * 2 ^ (excess n 1 e + k)) = nearestEven n (1 * 2 ^ excess n 1 e) := by
    rw [Nat.pow_add, ← Nat.mul_assoc, nearestEven_mul_right (by positivity)]
  rw [rounded, amount, settle, steps, exponent]
  rfl

/-! ## Whole numbers -/

/-- The parts of the double nearest to a whole number. -/
def natParts (n : Nat) : Parts := rounded false (n * 2 ^ (52 - n.log2)) 1 (-(52 - n.log2 : Nat))

theorem negative_natParts (n : Nat) : (natParts n).negative = false := by
  rw [natParts, rounded, settle]
  split <;> rfl

theorem two_pow_le_scaled {n : Nat} (positive : 0 < n) : 2 ^ 52 ≤ n * 2 ^ (52 - n.log2) := by
  have lower := Nat.log2_self_le positive.ne'
  calc 2 ^ 52 ≤ 2 ^ (n.log2 + (52 - n.log2)) := Nat.pow_le_pow_right (by decide) (by omega)
    _ = 2 ^ n.log2 * 2 ^ (52 - n.log2) := Nat.pow_add ..
    _ ≤ n * 2 ^ (52 - n.log2) := Nat.mul_le_mul_right _ lower

theorem isRounded_natParts {n : Nat} (positive : 0 < n) : (natParts n).IsRounded :=
  isRounded_rounded Nat.one_pos (Or.inl (by rw [Nat.div_one]; exact two_pow_le_scaled positive))

/-- The double of a whole number of 64 bits. -/
theorem toFloat_eq {n : Nat} (positive : 0 < n) (bounded : n < 2 ^ 64) :
    n.toUInt64.toFloat = double (natParts n) := by
  have word : n.toUInt64.toNat = n := Nat.mod_eq_of_lt bounded
  have steps : n.toUInt64.toFloat = .ofModel (.pack (.ofNat .binary64 n.toUInt64.toNat)) := rfl
  have target : Format.binary64.targetExponent (totalExponent n 0) = (n.log2 : Int) - 52 := by
    rw [targetExponent_eq, totalExponent]
    omega
  have amount : ((0 : Int) - ((n.log2 : Int) - 52)).toNat = 52 - n.log2 := by omega
  have round : UnpackedFloat.round .binary64 .positive n 0 = (natParts n).unpacked := by
    rw [UnpackedFloat.round, target, decreaseExponent, amount, Nat.shiftLeft_eq, Int.zero_sub]
    exact @roundWithAccuracy_eq false _ _ _ _ _ Nat.one_pos (.exact _)
  rw [steps, word, UnpackedFloat.ofNat, UnpackedFloat.ofInt, UnpackedFloat.normalize,
    Int.compare_eq_gt.mpr (by omega), double, ← round]
  rfl

theorem zero_toFloat : (0 : Nat).toUInt64.toFloat = double (.zero false) := by decide +kernel

/-- The whole number of steps of the last place that is nearest to a whole number. -/
def roundWhole (n : Nat) : Nat := nearestEven n (2 ^ (n.log2 - 52)) * 2 ^ (n.log2 - 52)

theorem excess_scaled {n : Nat} (positive : 0 < n) :
    excess (n * 2 ^ (52 - n.log2)) 1 (-(52 - n.log2 : Nat)) = n.log2 - 52 := by
  rw [excess, Nat.div_one, log2_mul_two_pow positive]
  omega

theorem magnitude_natParts {n : Nat} (positive : 0 < n) : (natParts n).magnitude = roundWhole n := by
  rw [natParts, magnitude_rounded Nat.one_pos, excess_scaled positive, roundWhole, Nat.one_mul]
  rcases Nat.le_total n.log2 52 with small | large
  · have none : n.log2 - 52 = 0 := by omega
    have exact (m : Nat) : nearestEven m 1 = m := by
      have := nearestEven_mul_self Nat.one_pos m
      rwa [Nat.mul_one] at this
    rw [none, Nat.pow_zero, exact, exact, Nat.cast_zero, add_zero, zpow_neg, zpow_natCast]
    push_cast
    field_simp
  · have none : 52 - n.log2 = 0 := by omega
    rw [none, Nat.pow_zero, Nat.mul_one, Nat.cast_zero, neg_zero, zero_add, zpow_natCast]
    push_cast
    rfl

/-- Whole numbers keep their order when they are rounded. -/
theorem roundWhole_mono {a b : Nat} (le : a ≤ b) : roundWhole a ≤ roundWhole b := by
  have log := log2_mono le
  rw [roundWhole, roundWhole]
  rcases Nat.lt_or_ge (a.log2 - 52) (b.log2 - 52) with less | same
  · have upper : nearestEven a (2 ^ (a.log2 - 52)) ≤ 2 ^ 53 := by
      refine nearestEven_le (by positivity) ?_
      rw [← Nat.pow_add]
      exact a.lt_log2_self.le.trans (Nat.pow_le_pow_right (by decide) (by omega))
    have lower : 2 ^ 52 ≤ nearestEven b (2 ^ (b.log2 - 52)) := by
      refine le_nearestEven (by positivity) ?_
      rw [← Nat.pow_add, show 52 + (b.log2 - 52) = b.log2 by omega]
      refine Nat.log2_self_le ?_
      rintro rfl
      simp at less
    calc nearestEven a (2 ^ (a.log2 - 52)) * 2 ^ (a.log2 - 52)
        ≤ 2 ^ 53 * 2 ^ (a.log2 - 52) := Nat.mul_le_mul_right _ upper
      _ = 2 ^ 52 * 2 ^ (a.log2 - 52 + 1) := by ring
      _ ≤ 2 ^ 52 * 2 ^ (b.log2 - 52) := Nat.mul_le_mul_left _ (Nat.pow_le_pow_right (by decide) less)
      _ ≤ nearestEven b (2 ^ (b.log2 - 52)) * 2 ^ (b.log2 - 52) := Nat.mul_le_mul_right _ lower
  · have amount : a.log2 - 52 = b.log2 - 52 := by omega
    rw [amount]
    exact Nat.mul_le_mul_right _ (nearestEven_mono le)

/-! ## Powers of ten -/

open Json in
/-- The double of a power of ten. -/
theorem powerOfTen_eq (n : Nat) (bounded : n ≤ 308) : powerOfTen n = double (natParts (10 ^ n)) := by
  rcases Nat.lt_or_ge n 23 with small | large
  · have table : ∀ k < 23, powerOfTen k = double (natParts (10 ^ k)) := by decide +kernel
    exact table n small
  · have full : 2 ^ 52 ≤ 10 ^ n := by
      calc 2 ^ 52 ≤ 10 ^ 23 := by decide
        _ ≤ 10 ^ n := Nat.pow_le_pow_right (by decide) large
    have log : 52 - (10 ^ n).log2 = 0 := by
      have := (Nat.le_log2 (by positivity)).mpr full
      omega
    -- The exact product has 53 more bits, all of them zero.
    have product : UnpackedFloat.ofScientific .binary64 1 n = (natParts (10 ^ n)).unpacked := by
      rw [UnpackedFloat.ofScientific, dif_neg (by decide), if_neg, if_neg, if_pos (by omega),
        UnpackedFloat.mul]
      · have scaled := @rounded_mul_two_pow false _ 0 full 53
        have shifted : 1 <<< Format.binary64.mantissaBits * 10 ^ (n : Int).toNat = 10 ^ n * 2 ^ 53 := by
          rw [Nat.shiftLeft_eq, Nat.one_mul, Nat.mul_comm]
          rfl
        rw [natParts, log, Nat.pow_zero, Nat.mul_one, Nat.cast_zero, neg_zero, ← scaled, shifted]
        exact @roundWithAccuracy_eq false _ _ _ _ _ Nat.one_pos (.exact _)
      · show ¬ (n : Int) < -((2 ^ 11 : Int) + _)
        omega
      · show ¬ (n : Int) > 2 ^ 11
        omega
    have slow : powerOfTen n = .ofModel (.pack (UnpackedFloat.ofScientific .binary64 1 n)) := by
      rw [powerOfTen, Float.ofScientific, dif_neg (by omega)]
      rfl
    rw [slow, product, double]

/-! ## The range of doubles -/

/-- The least number that is not rounded to a finite double, half a step beyond the largest one. -/
def overflowBound : ℚ := (2 ^ 54 - 1) * 2 ^ (970 : ℤ)

theorem overflowBound_eq : overflowBound = ((2 ^ 54 - 1) * 2 ^ 970 : Nat) := by
  rw [overflowBound, Nat.cast_mul, Nat.cast_pow, show (970 : ℤ) = (970 : Nat) from rfl, zpow_natCast]
  norm_num

/-- A number of steps of a power of two is at least some number of steps of a smaller one. -/
theorem le_mul_zpow {n k steps : Nat} {e least : Int} (many : steps * 2 ^ k ≤ n) (large : least ≤ e + k) :
    (steps : ℚ) * 2 ^ least ≤ n * 2 ^ e := by
  have scaled : (steps : ℚ) * 2 ^ k ≤ n := by exact_mod_cast many
  calc (steps : ℚ) * 2 ^ least ≤ steps * 2 ^ (e + k) := by
        gcongr
        norm_num
    _ = steps * 2 ^ k * 2 ^ e := by
        rw [zpow_add₀ (by norm_num), zpow_natCast]
        ring
    _ ≤ n * 2 ^ e := by gcongr

/-- What is below the bound is rounded to a double within range. -/
theorem isDouble_rounded {negative : Bool} {n : Nat} {e : Int} (full : 2 ^ 52 ≤ n)
    (below : (n : ℚ) * 2 ^ e < overflowBound) : (rounded negative n 1 e).IsDouble := by
  refine ⟨isRounded_rounded Nat.one_pos (Or.inl (by rwa [Nat.div_one])), ?_⟩
  by_contra beyond
  refine below.not_ge ?_
  rw [overflowBound]
  have log : 52 ≤ n.log2 := (Nat.le_log2 (by omega)).mpr full
  rw [rounded, settle] at beyond
  split at beyond
  · have large : 972 ≤ e + (excess n 1 e : Int) := Int.not_le.mp beyond
    have amount : 52 + excess n 1 e = n.log2 := by
      rw [excess, Nat.div_one] at large ⊢
      omega
    have many : 2 ^ 52 * 2 ^ excess n 1 e ≤ n := by
      rw [← Nat.pow_add, amount]
      exact Nat.log2_self_le (by omega)
    have value := le_mul_zpow many large
    rw [show (972 : ℤ) = 970 + 2 by norm_num, zpow_add₀ (by norm_num)] at value
    have positive : (0 : ℚ) < 2 ^ (970 : ℤ) := by positivity
    generalize (2 : ℚ) ^ (970 : ℤ) = step at value positive ⊢
    calc (2 ^ 54 - 1 : ℚ) * step ≤ 2 ^ 54 * step := by linarith
      _ = ((2 ^ 52 : ℕ) : ℚ) * (step * 2 ^ (2 : ℤ)) := by norm_num; ring
      _ ≤ n * 2 ^ e := value
  · have large : 972 ≤ e + (excess n 1 e : Int) + 1 := Int.not_le.mp beyond
    rename_i carry
    have close := (@nearestEven_bounds n (1 * 2 ^ excess n 1 e) (by positivity)).2
    have many : (2 ^ 54 - 1) * 2 ^ excess n 1 e ≤ 2 * n := by
      have steps := Nat.mul_le_mul_right (2 ^ excess n 1 e) (Nat.le_of_not_lt carry)
      rw [Nat.one_mul] at close steps
      omega
    have half := le_mul_zpow (e := e - 1) many (show (970 : Int) ≤ e - 1 + excess n 1 e by omega)
    rw [zpow_sub_one₀ (by norm_num), Nat.cast_mul, Nat.cast_ofNat] at half
    generalize (2 : ℚ) ^ (970 : ℤ) = step at half ⊢
    calc (2 ^ 54 - 1 : ℚ) * step = ((2 ^ 54 - 1 : ℕ) : ℚ) * step := by norm_num
      _ ≤ 2 * n * (2 ^ e * 2⁻¹) := half
      _ = n * 2 ^ e := by ring

theorem exponent_natParts {n : Nat} (positive : 0 < n) :
    (n.log2 : Int) - 52 ≤ (natParts n).exponent ∧ (natParts n).exponent ≤ (n.log2 : Int) - 51 := by
  have amount := excess_scaled positive
  have bounds := exponent_rounded false (n * 2 ^ (52 - n.log2)) 1 (-(52 - n.log2 : Nat))
  rw [amount] at bounds
  rw [natParts]
  omega

theorem two_pow_le_natParts {n : Nat} (positive : 0 < n) : 2 ^ 52 ≤ (natParts n).mantissa := by
  refine (isRounded_natParts positive).full.resolve_right ?_
  have := (exponent_natParts positive).1
  omega

theorem isDouble_natParts {n : Nat} (positive : 0 < n) (below : (n : ℚ) < overflowBound) :
    (natParts n).IsDouble := by
  refine isDouble_rounded (two_pow_le_scaled positive) ?_
  have value : ((n * 2 ^ (52 - n.log2) : Nat) : ℚ) * 2 ^ (-(52 - n.log2 : Nat) : Int) = n := by
    rw [zpow_neg, zpow_natCast]
    push_cast
    field_simp
  rwa [value]

/-- A product of whole numbers that stays below the bound stays within range. -/
theorem isDouble_mul_natParts {a b : Nat} (negative : Bool) (first : 0 < a) (second : 0 < b)
    (below : ((roundWhole a * roundWhole b : Nat) : ℚ) < overflowBound) :
    (rounded negative ((natParts a).mantissa * (natParts b).mantissa) 1
      ((natParts a).exponent + (natParts b).exponent)).IsDouble := by
  have fullA := two_pow_le_natParts first
  have fullB := two_pow_le_natParts second
  refine isDouble_rounded (fullA.trans (Nat.le_mul_of_pos_right _ (by omega))) ?_
  have product : (((natParts a).mantissa * (natParts b).mantissa : Nat) : ℚ)
      * 2 ^ ((natParts a).exponent + (natParts b).exponent) = (roundWhole a * roundWhole b : Nat) := by
    rw [Nat.cast_mul, Nat.cast_mul, ← magnitude_natParts first, ← magnitude_natParts second,
      zpow_add₀ (by norm_num), Parts.magnitude, Parts.magnitude]
    ring
  rwa [product]

end Viewsmith.Decimal
