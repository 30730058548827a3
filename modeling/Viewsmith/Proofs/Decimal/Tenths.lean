import Mathlib.Tactic.IntervalCases
import Viewsmith.Proofs.Decimal.ShortestDecimals

/-!
# Tenths of ten times a whole number

Ten times a whole number of 53 bits takes up to four bits more, which are rounded away before the product is
divided by ten again. What comes out is the number (`tenth_eq_iff`), except that a few numbers with all 53 bits
lose their last place.
-/

namespace Viewsmith.Decimal

open Json

/-! ## Mantissas -/

/-- Whether a whole number up to `2 ^ 53` is not the tenth of ten times the number: the product takes four bits
more than the number, and is rounded to one of its neighbours. -/
def LosesLastPlace (n : Nat) : Prop :=
  (2 ^ 54 < 10 * n ∧ n < 2 ^ 51 ∧ n % 2 = 1) ∨
    (2 ^ 55 < 10 * n ∧ n < 2 ^ 52 ∧ n % 4 = 2) ∨
    (2 ^ 56 < 10 * n ∧ n % 8 ∈ [1, 4, 7])

instance (n : Nat) : Decidable (LosesLastPlace n) :=
  inferInstanceAs (Decidable (_ ∨ _ ∨ _))

section Mantissas

variable {m : Nat} {b : Int}

/-- Three bits are rounded away, and the mantissa comes back. -/
theorem nearestEven_three_bits (m : Nat) : nearestEven (8 * nearestEven (10 * m) 8) 10 = m := by
  obtain ⟨low, high⟩ := @nearestEven_bounds (10 * m) 8 (by decide)
  exact nearestEven_eq (by omega) (by omega)

/-- Four bits are rounded away, and some mantissas do not come back. -/
theorem nearestEven_four_bits (m : Nat) :
    nearestEven (8 * nearestEven (10 * m) 16) 5 = m ↔ m % 8 ∉ [1, 4, 7] := by
  have product := nearestEven_cases (10 * m) 16
  generalize nearestEven (10 * m) 16 = rounded at product
  have quotient := nearestEven_cases (8 * rounded) 5
  generalize nearestEven (8 * rounded) 5 = tenth at quotient
  -- The last three bits decide.
  have small := Nat.mod_lt m (show 8 > 0 by decide)
  have bits := Nat.div_add_mod m 8
  generalize m % 8 = last, m / 8 = front at small bits ⊢
  subst bits
  by_cases lost : last ∈ [1, 4, 7]
  · refine iff_of_false (fun same => ?_) (not_not_intro lost)
    simp only [List.mem_cons, List.not_mem_nil, or_false] at lost
    rcases lost with rfl | rfl | rfl
    all_goals omega
  · refine iff_of_true ?_ lost
    simp only [List.mem_cons, List.not_mem_nil, or_false] at lost
    interval_cases last
    all_goals omega

/-- A mantissa is left as it is if no bits have to be rounded away. -/
theorem settle_of_lt {negative : Bool} {num den : Nat} {e : Int} {shift : Nat}
    (fits : nearestEven num (den * 2 ^ shift) < 2 ^ 53) :
    settle negative num den e shift = ⟨negative, nearestEven num (den * 2 ^ shift), e + shift⟩ := by
  rw [settle, if_pos fits]

section Products

variable {m : Nat} {b : Int} (full : 2 ^ 52 ≤ m) (fits : m < 2 ^ 53) (least : -1074 ≤ b)

include full fits least

/-- Ten times a mantissa takes three bits more, or four. -/
theorem rounded_ten_mul :
    (10 * m < 2 ^ 56 ∧ rounded false (10 * m) 1 b = ⟨false, nearestEven (10 * m) 8, b + 3⟩) ∨
      (2 ^ 56 < 10 * m ∧ rounded false (10 * m) 1 b = ⟨false, nearestEven (10 * m) 16, b + 4⟩) := by
  have amount (bits : Nat) (low : 2 ^ (52 + bits) ≤ 10 * m) (high : 10 * m < 2 ^ (52 + bits + 1)) :
      excess (10 * m) 1 b = bits := by
    have log : (10 * m).log2 = 52 + bits := (Nat.log2_eq_iff (by omega)).mpr ⟨low, high⟩
    rw [excess, Nat.div_one, log]
    omega
  rcases Nat.lt_or_ge (10 * m) (2 ^ 56) with three | four
  · left
    have bits := amount 3 (by omega) (by omega)
    obtain ⟨-, close⟩ := @nearestEven_bounds (10 * m) 8 (by decide)
    have short : nearestEven (10 * m) (1 * 2 ^ 3) < 2 ^ 53 := by
      show nearestEven (10 * m) 8 < 2 ^ 53
      omega
    rw [rounded, bits, settle_of_lt short]
    exact ⟨three, rfl⟩
  · right
    have bits := amount 4 (by omega) (by omega)
    obtain ⟨-, close⟩ := @nearestEven_bounds (10 * m) 16 (by decide)
    have short : nearestEven (10 * m) (1 * 2 ^ 4) < 2 ^ 53 := by
      show nearestEven (10 * m) 16 < 2 ^ 53
      omega
    rw [rounded, bits, settle_of_lt short]
    exact ⟨by omega, rfl⟩

end Products

theorem natParts_ten : natParts (10 ^ 1) = ⟨false, 5 * 2 ^ 50, -49⟩ := by decide +kernel

section Quotients

variable {m : Nat} {a : Int} (full : 2 ^ 52 ≤ m) (fits : m < 2 ^ 53) (least : -1070 ≤ a)

include full fits least

/-- The tenth of a double is formed from eight times its mantissa, divided by five or by ten. -/
theorem quotientParts_ten (shift : Nat) (bits : (8 * m / 5).log2 = 52 + shift) :
    quotientParts ⟨false, m, a⟩ (natParts (10 ^ 1))
      = settle false (8 * m * 2 ^ 50) (5 * 2 ^ 50) (a - 4) shift := by
  have log : m.log2 = 52 := (Nat.log2_eq_iff (by omega)).mpr ⟨full, fits⟩
  have ten : (5 * 2 ^ 50).log2 = 52 := by decide
  have exponent : quotientExponent ⟨false, m, a⟩ (natParts (10 ^ 1)) = a - 4 := by
    rw [natParts_ten, quotientExponent]
    simp only [log, ten]
    omega
  have amount : ((⟨false, m, a⟩ : Parts).exponent - (natParts (10 ^ 1)).exponent - (a - 4)).toNat = 53 := by
    rw [natParts_ten]
    show (a - -49 - (a - 4)).toNat = 53
    omega
  have num : m * 2 ^ 53 = 8 * m * 2 ^ 50 := by ring
  have steps : excess (8 * m * 2 ^ 50) (5 * 2 ^ 50) (a - 4) = shift := by
    rw [excess, Nat.mul_div_mul_right _ _ (by positivity), bits]
    omega
  rw [quotientParts, exponent, amount, num, natParts_ten, rounded, steps]
  rfl

end Quotients

section Tenths

variable {m : Nat} {b : Int} (full : 2 ^ 52 ≤ m) (fits : m < 2 ^ 53) (least : -1073 ≤ b)

include full fits least

/-- The tenth of ten times a mantissa has the exponent of the mantissa again. -/
theorem quotientParts_ten_mul : ∃ steps,
    quotientParts (rounded false (10 * m) 1 b) (natParts (10 ^ 1)) = ⟨false, steps, b⟩ ∧
      (steps = m ↔ ¬ (2 ^ 56 < 10 * m ∧ m % 8 ∈ [1, 4, 7])) := by
  rcases rounded_ten_mul full fits (b := b) (by omega) with ⟨three, product⟩ | ⟨four, product⟩
  · have near := @nearestEven_bounds (10 * m) 8 (by decide)
    have tenth := nearestEven_three_bits m
    generalize nearestEven (10 * m) 8 = p at product near tenth
    have bits : (8 * p / 5).log2 = 52 + 1 := (Nat.log2_eq_iff (by omega)).mpr ⟨by omega, by omega⟩
    have steps : nearestEven (8 * p * 2 ^ 50) (5 * 2 ^ 50 * 2 ^ 1) = m :=
      (nearestEven_mul_right (by decide) (8 * p) 10).trans tenth
    rw [product, quotientParts_ten (by omega) (by omega) (by omega) 1 bits, settle_of_lt (by rwa [steps]), steps]
    refine ⟨m, ?_, iff_of_true rfl fun lost => by omega⟩
    rw [Parts.mk.injEq]
    exact ⟨rfl, rfl, by omega⟩
  · have near := @nearestEven_bounds (10 * m) 16 (by decide)
    have tenth := nearestEven_four_bits m
    generalize nearestEven (10 * m) 16 = p at product near tenth
    have bits : (8 * p / 5).log2 = 52 + 0 := (Nat.log2_eq_iff (by omega)).mpr ⟨by omega, by omega⟩
    have steps : nearestEven (8 * p * 2 ^ 50) (5 * 2 ^ 50 * 2 ^ 0) = nearestEven (8 * p) 5 :=
      nearestEven_mul_right (by decide) (8 * p) 5
    have small : nearestEven (8 * p) 5 < 2 ^ 53 := by
      have close := @nearestEven_bounds (8 * p) 5 (by decide)
      omega
    rw [product, quotientParts_ten (by omega) (by omega) (by omega) 0 bits, settle_of_lt (by rwa [steps]), steps]
    refine ⟨_, ?_, tenth.trans (not_congr ⟨fun lost => ⟨four, lost⟩, And.right⟩)⟩
    rw [Parts.mk.injEq]
    exact ⟨rfl, rfl, by omega⟩

end Tenths

end Mantissas

/-! ## Whole numbers -/

section Whole

variable {n : Nat} (positive : 0 < n) (bounded : n < 2 ^ 53)

include positive bounded

/-- Ten times a number is ten times its mantissa. -/
theorem natParts_ten_mul :
    natParts (10 * n) = rounded false (10 * (natParts n).mantissa) 1 (natParts n).exponent := by
  have log : n.log2 ≤ 52 := log2_le_of_lt bounded
  have larger : n.log2 ≤ (10 * n).log2 := log2_mono (Nat.le_mul_of_pos_left n (by decide))
  have full := two_pow_le_scaled (n := 10 * n) (by omega)
  have same := @rounded_mul_two_pow false _ (-(52 - (10 * n).log2 : Nat)) full
    ((52 - n.log2) - (52 - (10 * n).log2))
  have shift : 52 - (10 * n).log2 + (52 - n.log2 - (52 - (10 * n).log2)) = 52 - n.log2 := by omega
  have exponent : (n.log2 : Int) - 52
      = -(52 - (10 * n).log2 : Nat) - (52 - n.log2 - (52 - (10 * n).log2) : Nat) := by omega
  rw [natParts_of_lt positive bounded, exponent, natParts, ← same, Nat.mul_assoc, ← Nat.pow_add, shift,
    Nat.mul_assoc]

/-- The last place is lost if it is lost from the mantissa. -/
theorem losesLastPlace_iff : LosesLastPlace n ↔
    2 ^ 56 < 10 * (natParts n).mantissa ∧ (natParts n).mantissa % 8 ∈ [1, 4, 7] := by
  have lower := Nat.log2_self_le positive.ne'
  have upper := n.lt_log2_self
  have log : n.log2 ≤ 52 := log2_le_of_lt bounded
  rw [natParts_of_lt positive bounded, LosesLastPlace]
  simp only [List.mem_cons, List.not_mem_nil, or_false]
  generalize n.log2 = bits at lower upper log
  rcases Nat.lt_or_ge bits 50 with few | many
  · have power : 2 ^ (bits + 1) ≤ 2 ^ 50 := Nat.pow_le_pow_right (by decide) few
    have shift : n * 2 ^ (52 - bits) = n * 2 ^ (49 - bits) * 8 := by
      rw [show 52 - bits = 49 - bits + 3 by omega, Nat.pow_add, ← Nat.mul_assoc]
    rw [shift]
    omega
  · interval_cases bits
    all_goals
      simp only [Nat.reduceSub, Nat.reducePow, Nat.reduceAdd] at lower upper ⊢
      omega

/-- The tenth of ten times a number is the number, unless its last place is lost. -/
theorem tenth_eq_iff : ∃ q : Parts, q.IsDouble ∧
    (10 * n).toUInt64.toFloat / powerOfTen 1 = double q ∧ (q = natParts n ↔ ¬ LosesLastPlace n) := by
  have product := natParts_ten_mul positive bounded
  have full := two_pow_le_natParts positive
  have fits := (isRounded_natParts positive).fits
  have log : n.log2 ≤ 52 := log2_le_of_lt bounded
  have exponent := exponent_natParts positive
  rw [losesLastPlace_iff positive bounded, toFloat_eq (by omega) (by omega), powerOfTen_eq 1 (by decide)]
  have tenDouble : (natParts (10 ^ 1)).IsDouble := by
    rw [natParts_ten]
    exact ⟨⟨by decide, by decide, Or.inl (by decide)⟩, by decide⟩
  have tenNonzero : (natParts (10 ^ 1)).mantissa ≠ 0 := by
    rw [natParts_ten]
    decide
  have tenfold : 0 < 10 * n := by omega
  have nonzero : (natParts (10 * n)).mantissa ≠ 0 := by
    have := two_pow_le_natParts tenfold
    omega
  have isDouble : (natParts (10 * n)).IsDouble := by
    have bits : (10 * n).log2 ≤ 56 := log2_le_of_lt (by omega)
    have most := (exponent_natParts tenfold).2
    exact ⟨isRounded_natParts tenfold, by omega⟩
  obtain ⟨steps, parts, kept⟩ := quotientParts_ten_mul full fits (b := (natParts n).exponent) (by omega)
  rw [← product] at parts
  refine ⟨_, ⟨isRounded_quotientParts isDouble nonzero tenNonzero, ?_⟩,
    double_div isDouble tenDouble nonzero tenNonzero, ?_⟩
  · rw [parts]
    show (natParts n).exponent ≤ 971
    omega
  · have unsigned := negative_natParts n
    rw [parts, ← kept]
    generalize natParts n = p at unsigned ⊢
    obtain ⟨negative, mantissa, exponent⟩ := p
    rw [Parts.mk.injEq]
    exact ⟨fun same => same.2.1, fun same => ⟨unsigned.symm, same, rfl⟩⟩

end Whole

end Viewsmith.Decimal
