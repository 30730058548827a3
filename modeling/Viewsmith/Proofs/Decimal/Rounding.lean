import Mathlib
import Viewsmith.Decimal.Shortest

/-!
# Rounding to doubles

Arithmetic on doubles forms an exact result and rounds it: bits that do not fit are shifted out, and the
last of them say where the exact result lies. What comes of it is the nearest whole multiple of the last
place, halves going to the even one (`roundWithAccuracy_eq`).
-/

namespace Viewsmith.Decimal

open Float.Model Float.Model.UnpackedFloat

/-! ## The nearest whole number -/

/-- The whole number that is nearest to `num / den`, of two such numbers the even one. -/
def nearestEven (num den : Nat) : Nat :=
  match compare (2 * (num % den)) den with
  | .lt => num / den
  | .eq => num / den + num / den % 2
  | .gt => num / den + 1

section Nearest

variable {num den : Nat}

theorem nearestEven_of_lt (below : 2 * (num % den) < den) : nearestEven num den = num / den := by
  rw [nearestEven, Nat.compare_eq_lt.mpr below]

theorem nearestEven_of_eq (half : 2 * (num % den) = den) :
    nearestEven num den = num / den + num / den % 2 := by
  rw [nearestEven, Nat.compare_eq_eq.mpr half]

theorem nearestEven_of_gt (above : den < 2 * (num % den)) : nearestEven num den = num / den + 1 := by
  rw [nearestEven, Nat.compare_eq_gt.mpr above]

theorem nearestEven_cases (num den : Nat) :
    (2 * (num % den) < den ∧ nearestEven num den = num / den) ∨
      (2 * (num % den) = den ∧ nearestEven num den = num / den + num / den % 2) ∨
      (den < 2 * (num % den) ∧ nearestEven num den = num / den + 1) := by
  rcases Nat.lt_trichotomy (2 * (num % den)) den with below | half | above
  · exact Or.inl ⟨below, nearestEven_of_lt below⟩
  · exact Or.inr (Or.inl ⟨half, nearestEven_of_eq half⟩)
  · exact Or.inr (Or.inr ⟨above, nearestEven_of_gt above⟩)

/-- The nearest whole number is at most half of one away. -/
theorem nearestEven_bounds (positive : 0 < den) :
    2 * num ≤ 2 * (nearestEven num den * den) + den ∧ 2 * (nearestEven num den * den) ≤ 2 * num + den := by
  have whole := Nat.div_add_mod' num den
  have small := Nat.mod_lt num positive
  have next : (num / den + 1) * den = num / den * den + den := Nat.succ_mul _ _
  rcases nearestEven_cases num den with ⟨below, same⟩ | ⟨half, same⟩ | ⟨above, same⟩
  · rw [same]
    omega
  · rw [same]
    rcases Nat.mod_two_eq_zero_or_one (num / den) with even | odd
    · rw [even, Nat.add_zero]
      omega
    · rw [odd, next]
      omega
  · rw [same, next]
    omega

/-- A number that is less than half away from a whole number is rounded to it. -/
theorem nearestEven_eq {n : Nat} (low : 2 * (n * den) < 2 * num + den)
    (high : 2 * num < 2 * (n * den) + den) : nearestEven num den = n := by
  obtain ⟨below, above⟩ := @nearestEven_bounds num den (by omega)
  rcases Nat.lt_trichotomy (nearestEven num den) n with less | same | greater
  · have apart := Nat.mul_le_mul_right den (Nat.succ_le_of_lt less)
    rw [Nat.succ_mul] at apart
    omega
  · exact same
  · have apart := Nat.mul_le_mul_right den (Nat.succ_le_of_lt greater)
    rw [Nat.succ_mul] at apart
    omega

theorem nearestEven_mul_self (positive : 0 < den) (n : Nat) : nearestEven (n * den) den = n :=
  nearestEven_eq (by omega) (by omega)

theorem nearestEven_mono {a b : Nat} (le : a ≤ b) :
    nearestEven a den ≤ nearestEven b den := by
  have quotient : a / den ≤ b / den := Nat.div_le_div_right le
  rcases Nat.lt_or_eq_of_le quotient with less | same
  · have upper : nearestEven a den ≤ a / den + 1 := by
      rcases nearestEven_cases a den with h | h | h <;> omega
    have lower : b / den ≤ nearestEven b den := by
      rcases nearestEven_cases b den with h | h | h <;> omega
    omega
  · have rest : a % den ≤ b % den := by
      have wholeA := Nat.div_add_mod a den
      have wholeB := Nat.div_add_mod b den
      rw [same] at wholeA
      omega
    have first := nearestEven_cases a den
    rw [same] at first
    rcases nearestEven_cases b den with h | h | h <;> omega

theorem nearestEven_mul_right {c : Nat} (positive : 0 < c) (num den : Nat) :
    nearestEven (num * c) (den * c) = nearestEven num den := by
  have same : compare (2 * (num * c % (den * c))) (den * c) = compare (2 * (num % den)) den := by
    rw [Nat.mul_mod_mul_right, ← Nat.mul_assoc]
    rcases Nat.lt_trichotomy (2 * (num % den)) den with below | half | above
    · rw [Nat.compare_eq_lt.mpr below, Nat.compare_eq_lt.mpr (Nat.mul_lt_mul_of_pos_right below positive)]
    · rw [Nat.compare_eq_eq.mpr half, half, Nat.compare_eq_eq]
    · rw [Nat.compare_eq_gt.mpr above, Nat.compare_eq_gt.mpr (Nat.mul_lt_mul_of_pos_right above positive)]
  unfold nearestEven
  rw [same, Nat.mul_div_mul_right _ _ positive]

/-- What is below a whole number is not rounded beyond it. -/
theorem nearestEven_le {n : Nat} (positive : 0 < den) (le : num ≤ n * den) : nearestEven num den ≤ n :=
  (nearestEven_mono le).trans_eq (nearestEven_mul_self positive n)

theorem le_nearestEven {n : Nat} (positive : 0 < den) (le : n * den ≤ num) : n ≤ nearestEven num den :=
  (nearestEven_mul_self positive n).symm.trans_le (nearestEven_mono le)

end Nearest

/-! ## Leading bits -/

theorem log2_le_of_lt {m k : Nat} (bound : m < 2 ^ (k + 1)) : m.log2 ≤ k := by
  by_cases none : m = 0
  · simp [none]
  · exact Nat.lt_succ_iff.mp ((Nat.log2_lt none).mpr bound)

theorem log2_mono {a b : Nat} (le : a ≤ b) : a.log2 ≤ b.log2 := by
  by_cases none : a = 0
  · simp [none]
  · exact (Nat.le_log2 (by omega)).mpr ((Nat.log2_self_le none).trans le)

theorem log2_mul_two_pow {n : Nat} (positive : 0 < n) (k : Nat) : (n * 2 ^ k).log2 = n.log2 + k := by
  rw [Nat.log2_eq_iff (by positivity)]
  have lower := Nat.log2_self_le positive.ne'
  have upper := n.lt_log2_self
  constructor
  · rw [Nat.pow_add]
    exact Nat.mul_le_mul_right _ lower
  · rw [Nat.add_right_comm, Nat.pow_add]
    exact Nat.mul_lt_mul_of_pos_right upper (by positivity)

/-- The leading bit of a quotient. -/
theorem log2_div_le {a b : Nat} (positive : 0 < b) : (a / b).log2 ≤ a.log2 - b.log2 := by
  refine log2_le_of_lt ((Nat.div_lt_iff_lt_mul positive).mpr ?_)
  calc a < 2 ^ (a.log2 + 1) := a.lt_log2_self
    _ ≤ 2 ^ (a.log2 - b.log2 + 1 + b.log2) := Nat.pow_le_pow_right (by decide) (by omega)
    _ = 2 ^ (a.log2 - b.log2 + 1) * 2 ^ b.log2 := Nat.pow_add ..
    _ ≤ 2 ^ (a.log2 - b.log2 + 1) * b := Nat.mul_le_mul_left _ (Nat.log2_self_le positive.ne')

/-! ## Bits that are shifted out -/

/-- Whether a mantissa and the bits kept beside it stand for `num / den`. -/
structure Holds (m : ExtendedMantissa) (num den : Nat) : Prop where
  mantissa : m.mantissa = num / den
  roundBit : m.roundBit = true ↔ den ≤ 2 * (num % den)
  stickyBit : m.stickyBit = true ↔ num % den ≠ 0 ∧ 2 * (num % den) ≠ den

namespace Holds

variable {m : ExtendedMantissa} {num den : Nat}

theorem exact (mantissa : Nat) : Holds (.ofMantissaAndAccuracy mantissa .exact) mantissa 1 where
  mantissa := (Nat.div_one mantissa).symm
  roundBit := by simp [ExtendedMantissa.ofMantissaAndAccuracy, Nat.mod_one]
  stickyBit := by simp [ExtendedMantissa.ofMantissaAndAccuracy, Nat.mod_one]

/-- A quotient and its remainder. -/
theorem fraction (num : Nat) {den : Nat} (positive : 0 < den) :
    Holds (.ofMantissaAndAccuracy (num / den) (accuracyOfFraction (num % den) den)) num den := by
  rw [accuracyOfFraction]
  split
  · rename_i none
    exact ⟨rfl, by simp [ExtendedMantissa.ofMantissaAndAccuracy, none, positive.ne'],
      by simp [ExtendedMantissa.ofMantissaAndAccuracy, none]⟩
  · rename_i some
    rcases Nat.lt_trichotomy (2 * (num % den)) den with below | half | above
    · rw [Nat.compare_eq_lt.mpr below]
      exact ⟨rfl, by simp [ExtendedMantissa.ofMantissaAndAccuracy, below],
        by simp [ExtendedMantissa.ofMantissaAndAccuracy, some, below.ne]⟩
    · rw [Nat.compare_eq_eq.mpr half]
      exact ⟨rfl, by simp [ExtendedMantissa.ofMantissaAndAccuracy, half],
        by simp [ExtendedMantissa.ofMantissaAndAccuracy, half]⟩
    · rw [Nat.compare_eq_gt.mpr above]
      exact ⟨rfl, by simp [ExtendedMantissa.ofMantissaAndAccuracy, above.le],
        by simp [ExtendedMantissa.ofMantissaAndAccuracy, some, above.ne']⟩

theorem shiftRightOne (h : Holds m num den) (positive : 0 < den) :
    Holds m.shiftRightOne num (den * 2) := by
  have rest : num % (den * 2) = num % den + den * (num / den % 2) := Nat.mod_mul
  have small := Nat.mod_lt num positive
  have bits : m.roundBit = true ∨ m.stickyBit = true ↔ num % den ≠ 0 := by
    rw [h.roundBit, h.stickyBit]
    omega
  refine ⟨?_, ?_, ?_⟩
  · rw [ExtendedMantissa.shiftRightOne, h.mantissa, Nat.div_div_eq_div_mul]
  · have odd : m.shiftRightOne.roundBit = true ↔ num / den % 2 ≠ 0 := by
      simp [ExtendedMantissa.shiftRightOne, h.mantissa]
    rw [odd, rest]
    rcases Nat.mod_two_eq_zero_or_one (num / den) with even | odd
    · rw [even]
      omega
    · rw [odd]
      omega
  · have later : m.shiftRightOne.stickyBit = true ↔ num % den ≠ 0 := by
      rw [ExtendedMantissa.shiftRightOne, Bool.or_eq_true, bits]
    rw [later, rest]
    rcases Nat.mod_two_eq_zero_or_one (num / den) with even | odd
    · rw [even]
      omega
    · rw [odd]
      omega

theorem shiftRight (h : Holds m num den) (positive : 0 < den) (k : Nat) :
    Holds (m >>> k) num (den * 2 ^ k) := by
  induction k with
  | zero =>
      rw [Nat.pow_zero, Nat.mul_one]
      exact h
  | succ k ih =>
      rw [Nat.pow_succ, ← Nat.mul_assoc]
      exact ih.shiftRightOne (by positivity)

theorem roundedMantissa (h : Holds m num den) (positive : 0 < den) :
    m.roundedMantissa = nearestEven num den := by
  have small := Nat.mod_lt num positive
  obtain ⟨mantissa, roundBit, stickyBit⟩ := m
  obtain ⟨same, round, sticky⟩ := h
  have same : mantissa = num / den := same
  subst same
  cases roundBit with
  | false =>
      have below : 2 * (num % den) < den := by simpa using round
      rw [nearestEven_of_lt below]
      cases stickyBit <;> rfl
  | true =>
      have least : den ≤ 2 * (num % den) := by simpa using round
      cases stickyBit with
      | false =>
          have half : 2 * (num % den) = den := by
            by_contra other
            have set := sticky.mpr ⟨by omega, other⟩
            cases set
          rw [nearestEven_of_eq half]
          rfl
      | true =>
          have above : den < 2 * (num % den) := by
            have other := (sticky.mp rfl).2
            omega
          rw [nearestEven_of_gt above]
          rfl

end Holds

/-! ## Rounding -/

def signOf (negative : Bool) : Sign := if negative then .negative else .positive

def Parts.unpacked (p : Parts) : UnpackedFloat :=
  if h : p.mantissa = 0 then .zero (signOf p.negative)
  else .finite (signOf p.negative) p.mantissa p.exponent (Nat.pos_of_ne_zero h)

/-- How far `num / den` steps of size `2 ^ exponent` have to be shifted to fit 53 bits, and at least as
far as the least step of doubles. -/
def excess (num den : Nat) (exponent : Int) : Nat :=
  (max ((num / den).log2 + exponent - 52) (-1074) - exponent).toNat

/-- The number `num / den * 2 ^ exponent` in steps that double by `shift` places. One step too many for 53
bits makes half as many of twice the size. -/
def settle (negative : Bool) (num den : Nat) (exponent : Int) (shift : Nat) : Parts :=
  let steps := nearestEven num (den * 2 ^ shift)
  if steps < 2 ^ 53 then ⟨negative, steps, exponent + shift⟩
  else ⟨negative, 2 ^ 52, exponent + shift + 1⟩

/-- The parts to which `num / den * 2 ^ exponent` is rounded. -/
def rounded (negative : Bool) (num den : Nat) (exponent : Int) : Parts :=
  settle negative num den exponent (excess num den exponent)

/-- The last place of a double of some total exponent. -/
theorem targetExponent_eq (total : Int) :
    Format.binary64.targetExponent total = max (total - 53) (-1074) := by
  simp [Format.targetExponent, Format.mantissaBits, Format.minExponent]

/-- A mantissa that fits is not shifted. -/
theorem shiftToTargetExponent_of_fits {m : Nat} {e : Int} (fits : m < 2 ^ 53) (least : -1074 ≤ e) :
    shiftToTargetExponent .binary64 m e .exact = (⟨m, false, false⟩, e) := by
  have log : m.log2 ≤ 52 := log2_le_of_lt fits
  have none : (Format.binary64.targetExponent (totalExponent m e) - e).toNat = 0 := by
    rw [targetExponent_eq, totalExponent]
    omega
  rw [shiftToTargetExponent, shiftToExponent, none]
  simp [HShiftRight.hShiftRight, Nat.repeat, ExtendedMantissa.ofMantissaAndAccuracy]

/-- A mantissa that has been rounded up to the next power of two is shifted by one place. -/
theorem shiftToTargetExponent_carry {e : Int} (least : -1074 ≤ e) :
    shiftToTargetExponent .binary64 (2 ^ 53) e .exact = (⟨2 ^ 52, false, false⟩, e + 1) := by
  have one : (Format.binary64.targetExponent (totalExponent (2 ^ 53) e) - e).toNat = 1 := by
    rw [targetExponent_eq, totalExponent, Nat.log2_two_pow]
    omega
  rw [shiftToTargetExponent, shiftToExponent, one]
  simp [HShiftRight.hShiftRight, Nat.repeat, ExtendedMantissa.ofMantissaAndAccuracy,
    ExtendedMantissa.shiftRightOne]

section Rounding

variable {negative : Bool} {num den : Nat} {e : Int}

/-- The first 53 bits and what is rounded up are at most one step too many. -/
theorem nearestEven_excess_le (positive : 0 < den) :
    nearestEven num (den * 2 ^ excess num den e) ≤ 2 ^ 53 := by
  refine nearestEven_le (by positivity) ?_
  have bound : num / den < 2 ^ (53 + excess num den e) :=
    Nat.lt_log2_self.trans_le (Nat.pow_le_pow_right (by decide) (by rw [excess]; omega))
  rw [Nat.div_lt_iff_lt_mul positive, Nat.pow_add] at bound
  calc num ≤ 2 ^ 53 * 2 ^ excess num den e * den := bound.le
    _ = 2 ^ 53 * (den * 2 ^ excess num den e) := by ring

theorem exponent_rounded (negative : Bool) (num den : Nat) (e : Int) :
    e + excess num den e ≤ (rounded negative num den e).exponent ∧
      (rounded negative num den e).exponent ≤ e + excess num den e + 1 := by
  rw [rounded, settle]
  split
  · exact ⟨le_rfl, (lt_add_one _).le⟩
  · exact ⟨(lt_add_one _).le, le_rfl⟩

/-- Shifting out the bits that do not fit rounds to a whole number of steps of the last place. -/
theorem roundWithAccuracy_eq {m : Nat} {accuracy : Accuracy} (positive : 0 < den)
    (holds : Holds (.ofMantissaAndAccuracy m accuracy) num den) :
    roundWithAccuracy .binary64 (signOf negative) m e accuracy
      = (rounded negative num den e).unpacked := by
  have mantissa : m = num / den := by
    rw [← holds.mantissa]
    cases accuracy with
    | exact => rfl
    | inexact o => cases o <;> rfl
  have least : -1074 ≤ e + excess num den e := by
    rw [excess]
    omega
  have most : nearestEven num (den * 2 ^ excess num den e) ≤ 2 ^ 53 := nearestEven_excess_le positive
  rw [rounded, settle]
  generalize amount : excess num den e = shift at least most
  have first : shiftToTargetExponent .binary64 m e accuracy
      = (ExtendedMantissa.ofMantissaAndAccuracy m accuracy >>> shift, e + shift) := by
    have same : (Format.binary64.targetExponent (totalExponent m e) - e).toNat = shift := by
      rw [targetExponent_eq, totalExponent, ← amount, excess, mantissa]
      congr 2
      omega
    rw [shiftToTargetExponent, shiftToExponent, same]
  have steps := (holds.shiftRight positive shift).roundedMantissa (by positivity)
  have made (m' : Nat) (e' : Int)
      (second : shiftToTargetExponent .binary64 (nearestEven num (den * 2 ^ shift)) (e + shift) .exact
        = (⟨m', false, false⟩, e')) :
      roundWithAccuracy .binary64 (signOf negative) m e accuracy = Parts.unpacked ⟨negative, m', e'⟩ := by
    rw [roundWithAccuracy, first]
    simp only [steps, second]
    rfl
  rcases Nat.lt_or_eq_of_le most with less | carry
  · simp only [if_pos less]
    exact made _ _ (shiftToTargetExponent_of_fits less least)
  · simp only [carry, if_neg (Nat.lt_irrefl _)]
    refine made _ _ ?_
    rw [carry, shiftToTargetExponent_carry least]

end Rounding

end Viewsmith.Decimal
