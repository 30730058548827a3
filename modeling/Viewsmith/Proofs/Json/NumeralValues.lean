import Viewsmith.Proofs.Decimal.Characters
import Viewsmith.Proofs.Decimal.WholeDoubles

/-!
# The values of numerals

The value of a numeral is a finite double, if it has one (`isFinite_value`), and it has one if it is not
too large (`isSome_scale`): the first digits and the power of ten are rounded, and so is their product, but
all this stays within the range of doubles as long as the number itself keeps two steps below the end of it.
-/

namespace Viewsmith.Json

open Decimal

/-! ## Significands -/

def significandParts (n : Nat) : Parts := if n = 0 then .zero false else natParts n

section Significands

variable {n : Nat} (bounded : n < wordLimit)

include bounded

theorem toFloat_significand : n.toUInt64.toFloat = double (significandParts n) := by
  rw [significandParts]
  split
  · rename_i none
    rw [none, zero_toFloat]
  · rename_i some
    exact toFloat_eq (Nat.pos_of_ne_zero some) bounded

/-- A significand is far from the end of the range of doubles. -/
theorem isDouble_significandParts :
    (significandParts n).IsDouble ∧ (significandParts n).exponent ≤ 12 := by
  rw [significandParts]
  split
  · exact ⟨isDouble_zero false, by show (-1074 : Int) ≤ 12; decide⟩
  · rename_i some
    have log : n.log2 ≤ 63 := log2_le_of_lt bounded
    have exponent := (exponent_natParts (Nat.pos_of_ne_zero some)).2
    refine ⟨⟨isRounded_natParts (Nat.pos_of_ne_zero some), by omega⟩, by omega⟩

end Significands

/-! ## Division by powers of ten -/

theorem isDouble_powerOfTen {n : Nat} (bounded : n ≤ 308) :
    (natParts (10 ^ n)).IsDouble ∧ (natParts (10 ^ n)).mantissa ≠ 0 := by
  have positive : 0 < 10 ^ n := by positivity
  have full := two_pow_le_natParts positive
  refine ⟨isDouble_natParts positive ?_, by omega⟩
  have below : 10 ^ n < (2 ^ 54 - 1) * 2 ^ 970 :=
    (Nat.pow_le_pow_right (by decide) bounded).trans_lt (by decide +kernel)
  rw [overflowBound_eq]
  exact_mod_cast below

theorem three_le_log2_ten_pow {n : Nat} (places : 1 ≤ n) : 3 ≤ (10 ^ n).log2 := by
  refine (Nat.le_log2 (by positivity)).mpr ?_
  calc 2 ^ 3 ≤ 10 ^ 1 := by decide
    _ ≤ 10 ^ n := Nat.pow_le_pow_right (by decide) places

/-- A double far from the end of the range stays so when it is divided by a power of ten. -/
theorem exists_div_powerOfTen {p : Parts} (h : p.IsDouble) (small : p.exponent ≤ 12) {n : Nat}
    (places : 1 ≤ n) (bounded : n ≤ 308) :
    ∃ q : Parts, q.IsDouble ∧ q.exponent ≤ 12 ∧ double p / powerOfTen n = double q := by
  obtain ⟨hq, nonzero⟩ := isDouble_powerOfTen bounded
  have exact : powerOfTen n = double (natParts (10 ^ n)) := powerOfTen_eq n bounded
  rw [exact]
  by_cases none : p.mantissa = 0
  · have zero : p = .zero p.negative := by
      obtain ⟨negative, mantissa, exponent⟩ := p
      have least := h.full.resolve_left (by omega)
      rw [Parts.zero, Parts.mk.injEq]
      exact ⟨rfl, none, least⟩
    rw [zero, zero_div_double hq nonzero]
    exact ⟨_, isDouble_zero _, by show (-1074 : Int) ≤ 12; decide, rfl⟩
  · have exponent := exponent_quotientParts_le none nonzero
    have rounded := isRounded_quotientParts h none nonzero
    have tens := (exponent_natParts (n := 10 ^ n) (by positivity)).1
    have log := three_le_log2_ten_pow places
    have full := two_pow_le_natParts (n := 10 ^ n) (by positivity)
    have bits := log2_le_of_lt h.fits
    have leading : 52 ≤ (natParts (10 ^ n)).mantissa.log2 := (Nat.le_log2 nonzero).mpr full
    refine ⟨_, ⟨rounded, ?_⟩, ?_, double_div h hq none nonzero⟩
    · omega
    · omega

theorem exists_divideByPower (fuel : Nat) {p : Parts} (h : p.IsDouble) (small : p.exponent ≤ 12)
    {places : Nat} (some : 1 ≤ places) :
    ∃ q : Parts, q.IsDouble ∧ q.exponent ≤ 12 ∧ divideByPower fuel (double p) places = double q := by
  induction fuel generalizing p places with
  | zero => exact ⟨p, h, small, rfl⟩
  | succ fuel ih =>
      rw [divideByPower]
      split
      · exact exists_div_powerOfTen h small some (by assumption)
      · split
        · exact ⟨p, h, small, rfl⟩
        · obtain ⟨q, hq, smaller, quotient⟩ := exists_div_powerOfTen h small (n := 308) (by decide) le_rfl
          rw [quotient]
          exact ih hq smaller (by omega)

/-! ## Multiplication by powers of ten -/

section Products

variable {n places : Nat} (bounded : n < wordLimit) (few : places ≤ 308)

include bounded few

theorem exists_mul_powerOfTen : ∃ q : Parts, q.IsRounded ∧
    n.toUInt64.toFloat * powerOfTen places = double q ∧
      (((roundWhole n * roundWhole (10 ^ places) : Nat) : ℚ) < overflowBound → q.IsDouble) := by
  obtain ⟨hq, nonzero⟩ := isDouble_powerOfTen few
  have hp := (isDouble_significandParts bounded).1
  rw [toFloat_significand bounded, powerOfTen_eq places few]
  by_cases none : n = 0
  · rw [significandParts, if_pos none, zero_mul_double hq nonzero]
    exact ⟨_, (isDouble_zero _).toIsRounded, rfl, fun _ => isDouble_zero _⟩
  · have positive : 0 < n := Nat.pos_of_ne_zero none
    have tens : 0 < 10 ^ places := by positivity
    rw [significandParts, if_neg none] at hp ⊢
    have full := two_pow_le_natParts positive
    have fullTens := two_pow_le_natParts tens
    refine ⟨_, ?_, double_mul hp hq (by omega) nonzero, isDouble_mul_natParts _ positive tens⟩
    refine isRounded_rounded Nat.one_pos (Or.inl ?_)
    rw [Nat.div_one]
    exact full.trans (Nat.le_mul_of_pos_right _ (by omega))

end Products

/-- The largest numbers that are certainly read, two steps below the end of the range of doubles. -/
def readableBound : Nat := (2 ^ 54 - 3) * 2 ^ 970

/-- The largest significands that keep below the bound keep the product within range. -/
theorem roundWhole_mul_lt {n places : Nat} (bounded : n < wordLimit) (few : places ≤ 308)
    (below : n * 10 ^ places ≤ readableBound) :
    ((roundWhole n * roundWhole (10 ^ places) : Nat) : ℚ) < overflowBound := by
  have table : ∀ k < 309, roundWhole (min (readableBound / 10 ^ k) (wordLimit - 1)) * roundWhole (10 ^ k)
      < (2 ^ 54 - 1) * 2 ^ 970 := by decide +kernel
  have largest : n ≤ min (readableBound / 10 ^ places) (wordLimit - 1) := by
    rw [Nat.le_min, Nat.le_div_iff_mul_le (by positivity)]
    exact ⟨below, by omega⟩
  rw [overflowBound_eq]
  exact_mod_cast (Nat.mul_le_mul_right _ (roundWhole_mono largest)).trans_lt (table places (by omega))

/-! ## Scaling -/

theorem isInf_double {p : Parts} (h : p.IsDouble) : (double p).isInf = false :=
  (not_special_of_isFinite (isFinite_double h)).2

section Scaling

variable {n : Nat} (bounded : n < wordLimit)

include bounded

/-- A scaled significand is finite. -/
theorem isFinite_scale {exponent : Int} {x : Float} (scaled : scale? n exponent = some x) :
    x.isFinite = true := by
  obtain ⟨hp, small⟩ := isDouble_significandParts bounded
  have made := toFloat_significand bounded
  cases exponent with
  | ofNat places =>
      rw [scale?] at scaled
      split at scaled
      · rename_i few
        obtain ⟨q, rounded, product, -⟩ := exists_mul_powerOfTen bounded few
        rw [product] at scaled
        cases bounded : (double q).isInf with
        | true => simp [bounded] at scaled
        | false =>
            have same : double q = x := by simpa [bounded] using scaled
            rw [← same]
            exact isFinite_double (isDouble_of_isInf_eq_false rounded bounded)
      · split at scaled
        · rw [← Option.some.inj scaled, made]
          exact isFinite_double hp
        · cases scaled
  | negSucc places =>
      obtain ⟨q, hq, -, quotient⟩ := exists_divideByPower (places + 1) hp small (Nat.le_add_left 1 places)
      rw [scale?, made] at scaled
      rw [← Option.some.inj scaled, quotient]
      exact isFinite_double hq

/-- A significand can be scaled unless the result is too large. -/
theorem isSome_scale {exponent : Int}
    (below : ∀ places : Nat, exponent = places → n * 10 ^ places ≤ readableBound) :
    (scale? n exponent).isSome = true := by
  cases exponent with
  | ofNat places =>
      have within := below places rfl
      rw [scale?]
      split
      · rename_i few
        obtain ⟨q, -, product, isDouble⟩ := exists_mul_powerOfTen bounded few
        have finite := isInf_double (isDouble (roundWhole_mul_lt bounded few within))
        simp [product, finite]
      · split
        · rfl
        · rename_i many some
          have power : 10 ^ places ≤ n * 10 ^ places := Nat.le_mul_of_pos_left _ (by omega)
          have beyond : readableBound < 10 ^ 155 * 10 ^ 154 := by decide +kernel
          rw [← Nat.pow_add] at beyond
          have few := (Nat.pow_lt_pow_iff_right (by decide)).mp ((power.trans within).trans_lt beyond)
          omega
  | negSucc places => rfl

end Scaling

/-! ## Digits -/

theorem le_foldl_digits (digits : List Char) (n : Nat) :
    n * 10 ^ digits.length ≤ digits.foldl (fun value c => 10 * value + digitValue c) n := by
  induction digits generalizing n with
  | nil => simp
  | cons c more ih =>
      have larger : n * 10 ≤ 10 * n + digitValue c := by omega
      rw [List.length_cons, Nat.pow_succ', ← Nat.mul_assoc, List.foldl_cons]
      exact (Nat.mul_le_mul_right _ larger).trans (ih _)

/-- The digits that fit a significand, and what they leave out: the significand does not become larger than
all the digits would make it. -/
theorem gather_spec {n m : Nat} {digits rest : List Char} (bounded : n < wordLimit)
    (gathered : gather n digits = (m, rest)) :
    m < wordLimit ∧ rest.length ≤ digits.length ∧ n ≤ m ∧
      m * 10 ^ rest.length ≤ digits.foldl (fun value c => 10 * value + digitValue c) n := by
  induction digits generalizing n with
  | nil =>
      cases gathered
      exact ⟨bounded, le_rfl, le_rfl, by simp⟩
  | cons c more ih =>
      simp only [gather] at gathered
      split at gathered
      · rename_i fits
        obtain ⟨small, shorter, larger, below⟩ := ih fits gathered
        exact ⟨small, shorter.trans (Nat.le_succ _), by omega, below⟩
      · cases gathered
        refine ⟨bounded, le_rfl, le_rfl, ?_⟩
        exact le_foldl_digits (c :: more) _

/-! ## Numerals -/

theorem isFinite_zero : (0 : Float).isFinite = true := by decide +kernel

theorem gather_lt (digits : List Char) {n : Nat} (bounded : n < wordLimit) : (gather n digits).1 < wordLimit :=
  (gather_spec bounded rfl).1

/-- The first digits of a numeral, as many as fit. -/
def Numeral.significand (n : Numeral) : Nat := (gather (gather 0 n.whole).1 n.fraction).1

/-- The power of ten by which the first digits are scaled, but for the exponent. -/
def Numeral.shift (n : Numeral) : Int :=
  ((gather 0 n.whole).2.length : Int)
    - ((n.fraction.length - (gather (gather 0 n.whole).1 n.fraction).2.length : Nat) : Int)

theorem Numeral.significand_lt (n : Numeral) : n.significand < wordLimit :=
  gather_lt _ (gather_lt _ (by decide))

section Magnitudes

variable {n : Numeral}

theorem magnitude_of_none (plain : n.exponent = none) : n.magnitude? = scale? n.significand n.shift := by
  rw [Numeral.magnitude?, plain]
  rfl

theorem magnitude_of_some {minus : Bool} {digits : List Char} (scaled : n.exponent = some (minus, digits)) :
    n.magnitude? =
      if exponentLimit < digitsValue digits then
        if n.significand = 0 ∨ minus then some 0 else none
      else scale? n.significand (if minus then n.shift - digitsValue digits else n.shift + digitsValue digits) := by
  rw [Numeral.magnitude?, scaled]
  rfl

/-- The magnitude of a numeral is a finite double. -/
theorem isFinite_magnitude {x : Float} (value : n.magnitude? = some x) : x.isFinite = true := by
  cases exponent : n.exponent with
  | none =>
      rw [magnitude_of_none exponent] at value
      exact isFinite_scale n.significand_lt value
  | some letter =>
      rw [magnitude_of_some exponent] at value
      split at value
      · split at value
        · rw [← Option.some.inj value]
          exact isFinite_zero
        · cases value
      · exact isFinite_scale n.significand_lt value

end Magnitudes

/-- The value of a numeral is a finite double. -/
theorem isFinite_value {n : Numeral} {x : Number} (value : n.value? = some x) : x.toFloat.isFinite = true := by
  have whole {m : Nat} (bounded : m < wordLimit) : m.toUInt64.toFloat.isFinite = true := by
    rw [toFloat_significand bounded]
    exact isFinite_double (isDouble_significandParts bounded).1
  have bounded : (gather 0 n.whole).1 < wordLimit := gather_lt _ (by decide)
  rw [Numeral.value?] at value
  simp only at value
  split at value
  · split at value
    · split at value
      · rw [← Option.some.inj value]
        exact isFinite_neg (whole bounded)
      · rw [← Option.some.inj value]
        exact isFinite_neg (whole bounded)
    · rw [← Option.some.inj value]
      exact whole bounded
  · obtain ⟨y, magnitude, rfl⟩ := Option.map_eq_some_iff.mp value
    have finite := isFinite_magnitude magnitude
    show (if n.negative then -y else y).isFinite = true
    split
    · exact isFinite_neg finite
    · exact finite

end Viewsmith.Json
