import Mathlib.Data.List.Basic
import Viewsmith.Decimal.Format
import Viewsmith.Proofs.Decimal.WholeDoubles

/-!
# What the shortest decimal is near to

The shortest decimal of a double lies among the reals that round to the double (`shortest_spec`). So the
shortest decimal of a whole number that is no more than a step away from its neighbours is the number itself
(`shortest_whole`).
-/

namespace Viewsmith.Decimal

/-! ## Values -/

def Scaled.value (s : Scaled) : ℚ := s.digits * 10 ^ s.exponent

/-- A power with an exponent of either sign, as a quotient of powers. -/
theorem mul_pow_toNat {b : ℚ} (nonzero : b ≠ 0) (k : ℤ) : b ^ k * b ^ (-k).toNat = b ^ k.toNat := by
  rw [← zpow_natCast, ← zpow_natCast, ← zpow_add₀ nonzero]
  congr 1
  omega

section Intervals

variable {p : Parts} {s : Scaled}

theorem value_interval (p : Parts) :
    ((interval p).unit : ℚ) = 2 ^ (p.exponent - 2) * ((interval p).den : ℚ) := by
  have quotient := mul_pow_toNat (b := 2) (by norm_num) (p.exponent - 2)
  rw [neg_sub] at quotient
  show ((2 ^ (p.exponent - 2).toNat : ℕ) : ℚ) = _ * ((2 ^ (2 - p.exponent).toNat : ℕ) : ℚ)
  push_cast
  exact quotient.symm

/-- A decimal in the interval of a double lies between the ends of the interval. -/
theorem value_of_contains (inside : (interval p).contains s = true) :
    ((interval p).low : ℚ) * 2 ^ (p.exponent - 2) ≤ s.value ∧
      s.value ≤ ((interval p).high : ℚ) * 2 ^ (p.exponent - 2) := by
  have bounds : (interval p).low * ((interval p).unit * 10 ^ (-s.exponent).toNat)
        ≤ s.digits * 10 ^ s.exponent.toNat * (interval p).den ∧
      s.digits * 10 ^ s.exponent.toNat * (interval p).den
        ≤ (interval p).high * ((interval p).unit * 10 ^ (-s.exponent).toNat) := by
    rw [Interval.contains] at inside
    split at inside
    · exact of_decide_eq_true inside
    · exact (of_decide_eq_true inside).imp le_of_lt le_of_lt
  have value := value_interval p
  have scale := mul_pow_toNat (b := 10) (by norm_num) s.exponent
  have den : (0 : ℚ) < (interval p).den := by
    show (0 : ℚ) < ((2 ^ (2 - p.exponent).toNat : ℕ) : ℚ)
    positivity
  have tens : (0 : ℚ) < 10 ^ (-s.exponent).toNat := by positivity
  have point : ((s.digits * 10 ^ s.exponent.toNat * (interval p).den : ℕ) : ℚ)
      = s.value * ((interval p).den * 10 ^ (-s.exponent).toNat) := by
    push_cast
    rw [Scaled.value, ← scale]
    ring
  have ending (n : ℕ) : ((n * ((interval p).unit * 10 ^ (-s.exponent).toNat) : ℕ) : ℚ)
      = n * 2 ^ (p.exponent - 2) * ((interval p).den * 10 ^ (-s.exponent).toNat) := by
    push_cast
    rw [value]
    ring
  constructor
  · refine le_of_mul_le_mul_right ?_ (mul_pos den tens)
    rw [← point, ← ending]
    exact_mod_cast bounds.1
  · refine le_of_mul_le_mul_right ?_ (mul_pos den tens)
    rw [← point, ← ending]
    exact_mod_cast bounds.2

end Intervals

/-! ## The decimal that is taken -/

theorem nearest_eq_some {i : Interval} {tie : Tie} {exponent : Int} {s : Scaled}
    (nearest : i.nearest? tie exponent = some s) : s.exponent = exponent ∧ i.contains s = true := by
  rw [Interval.nearest?] at nearest
  split at nearest
  · rename_i below above
    have either (prefer : Bool) (x y : Scaled) :
        (bif prefer then x else y) = x ∨ (bif prefer then x else y) = y := by
      cases prefer
      · exact Or.inr rfl
      · exact Or.inl rfl
    rw [← Option.some.inj nearest]
    rcases either _ _ _ with taken | taken
    · rw [taken]
      exact ⟨rfl, above⟩
    · rw [taken]
      exact ⟨rfl, below⟩
  · rename_i below _
    rw [← Option.some.inj nearest]
    exact ⟨rfl, below⟩
  · rename_i _ above
    rw [← Option.some.inj nearest]
    exact ⟨rfl, above⟩
  · cases nearest

theorem value_trimZeros (fuel : Nat) (s : Scaled) : (trimZeros fuel s).value = s.value := by
  induction fuel generalizing s with
  | zero => rfl
  | succ fuel ih =>
      rw [trimZeros]
      split
      · rename_i more
        have digits : (s.digits : ℚ) = (s.digits / 10 : ℕ) * 10 := by
          exact_mod_cast (Nat.div_mul_cancel (Nat.dvd_of_mod_eq_zero more.2)).symm
        rw [ih, Scaled.value, Scaled.value, digits, zpow_add_one₀ (by norm_num)]
        ring
      · rfl

theorem exponent_trimZeros (fuel : Nat) (s : Scaled) : s.exponent ≤ (trimZeros fuel s).exponent := by
  induction fuel generalizing s with
  | zero => exact le_rfl
  | succ fuel ih =>
      rw [trimZeros]
      split
      · exact (Int.le.intro 1 rfl).trans (ih _)
      · exact le_rfl

/-- The grid of the first digit of a double. -/
def Interval.lead (i : Interval) : Int := leadingExponent (i.value * i.unit) i.den

/-- The decimal that is taken is found on the coarsest grid that has one, if any of them has one. -/
theorem shortest_cases (tie : Tie) (p : Parts) :
    (shortest tie p = ⟨0, 0⟩ ∧
        ∀ k < 17, (interval p).nearest? tie ((interval p).lead - Int.ofNat k) = none) ∨
      ∃ s : Scaled, (interval p).contains s = true ∧ shortest tie p = trimZeros 17 s ∧
        ∀ k < 17, (interval p).nearest? tie ((interval p).lead - Int.ofNat k) ≠ none →
          (interval p).lead - k ≤ s.exponent := by
  have grids : shortest tie p = trimZeros 17 (((List.range 17).findSome? fun (n : Nat) =>
    (interval p).nearest? tie ((interval p).lead - Int.ofNat n)).getD ⟨0, 0⟩) := rfl
  rw [grids]
  cases found : (List.range 17).findSome? fun (n : Nat) =>
      (interval p).nearest? tie ((interval p).lead - Int.ofNat n) with
  | none =>
      refine Or.inl ⟨rfl, fun k below => ?_⟩
      exact List.findSome?_eq_none_iff.mp found k (List.mem_range.mpr below)
  | some s =>
      right
      obtain ⟨before, k, after, split, nearest, earlier⟩ := List.findSome?_eq_some_iff.mp found
      obtain ⟨exponent, inside⟩ := nearest_eq_some nearest
      refine ⟨s, inside, rfl, fun j below some => ?_⟩
      rw [exponent]
      -- The grids are tried in order, so this one does not come before the one that has the decimal.
      have order : ¬ j < k := by
        intro less
        have place : (List.range 17)[before.length]? = Option.some k := by
          rw [split, List.getElem?_append_right le_rfl, Nat.sub_self, List.getElem?_cons_zero]
        have bound : before.length < 17 := by
          have present := (List.getElem?_eq_some_iff.mp place).1
          rwa [List.length_range] at present
        rw [List.getElem?_range bound, Option.some.injEq] at place
        have inside : j ∈ before := by
          have at_j : (List.range 17)[j]? = Option.some j := List.getElem?_range below
          rw [split, List.getElem?_append_left (by omega)] at at_j
          exact List.mem_of_getElem? at_j
        exact some (earlier j inside)
      show _ - (j : Int) ≤ _ - (k : Int)
      omega

/-- The decimal that is taken rounds to the double, if there is one. -/
theorem shortest_spec (tie : Tie) (p : Parts) :
    shortest tie p = ⟨0, 0⟩ ∨
      (((interval p).low : ℚ) * 2 ^ (p.exponent - 2) ≤ (shortest tie p).value ∧
        (shortest tie p).value ≤ ((interval p).high : ℚ) * 2 ^ (p.exponent - 2)) := by
  refine (shortest_cases tie p).imp And.left ?_
  rintro ⟨s, inside, taken, -⟩
  rw [taken, value_trimZeros]
  exact value_of_contains inside

/-! ## Whole numbers -/

section Whole

variable {n : Nat} (positive : 0 < n) (bounded : n < 2 ^ 53)

include positive bounded

/-- A whole number of 53 bits is its own double. -/
theorem natParts_of_lt : natParts n = ⟨false, n * 2 ^ (52 - n.log2), n.log2 - 52⟩ := by
  have log : n.log2 ≤ 52 := log2_le_of_lt bounded
  have amount : excess (n * 2 ^ (52 - n.log2)) 1 (-(52 - n.log2 : Nat)) = 0 := by
    rw [excess_scaled positive]
    omega
  have fits : n * 2 ^ (52 - n.log2) < 2 ^ 53 := by
    calc n * 2 ^ (52 - n.log2) < 2 ^ (n.log2 + 1) * 2 ^ (52 - n.log2) :=
          Nat.mul_lt_mul_of_pos_right n.lt_log2_self (by positivity)
      _ = 2 ^ 53 := by
          rw [← Nat.pow_add]
          congr 1
          omega
  have steps : nearestEven (n * 2 ^ (52 - n.log2)) (1 * 2 ^ 0) = n * 2 ^ (52 - n.log2) := by
    have same := nearestEven_mul_self Nat.one_pos (n * 2 ^ (52 - n.log2))
    rwa [Nat.mul_one] at same
  rw [natParts, rounded, amount, settle, steps, if_pos fits, Parts.mk.injEq]
  exact ⟨rfl, rfl, by omega⟩

/-- The interval of a whole number, in quarters of the last place. -/
theorem interval_natParts : ∃ gap, 1 ≤ gap ∧ gap ≤ 2 ∧
    interval (natParts n) = ⟨n * 2 ^ (54 - n.log2) - gap, n * 2 ^ (54 - n.log2), n * 2 ^ (54 - n.log2) + 2,
      decide (n * 2 ^ (52 - n.log2) % 2 = 0), 1, 2 ^ (54 - n.log2)⟩ := by
  have log : n.log2 ≤ 52 := log2_le_of_lt bounded
  have four : 4 * (n * 2 ^ (52 - n.log2)) = n * 2 ^ (54 - n.log2) := by
    rw [show 54 - n.log2 = 52 - n.log2 + 2 by omega, Nat.pow_add]
    ring
  have unit : ((n.log2 : Int) - 52 - 2).toNat = 0 := by omega
  have den : (2 - ((n.log2 : Int) - 52)).toNat = 54 - n.log2 := by omega
  rw [natParts_of_lt positive bounded, interval]
  simp only [four, unit, den]
  refine ⟨if n * 2 ^ (52 - n.log2) = hiddenBit ∧ (n.log2 : Int) - 52 ≠ -1074 then 1 else 2, ?_, ?_, rfl⟩
  · split <;> omega
  · split <;> omega

omit positive in
theorem digitCount_le : 1 ≤ digitCount n ∧ digitCount n ≤ 16 := by
  refine ⟨Nat.length_toDigits_pos, (Nat.length_toDigits_le_iff (by decide) (by decide)).mpr ?_⟩
  calc n < 2 ^ 53 := bounded
    _ ≤ 10 ^ 16 := by decide

theorem lead_natParts : (interval (natParts n)).lead = (digitCount n : Int) - 1 := by
  obtain ⟨gap, -, -, shape⟩ := interval_natParts positive bounded
  have least : 2 ^ (54 - n.log2) ≤ n * 2 ^ (54 - n.log2) * 1 := by
    rw [Nat.mul_one]
    exact Nat.le_mul_of_pos_left _ positive
  rw [Interval.lead, shape, leadingExponent, if_pos least, Nat.mul_one, Nat.mul_div_cancel _ (by positivity)]

/-- The grid of whole numbers has the number. -/
theorem nearest_natParts_ne_none (tie : Tie) : (interval (natParts n)).nearest? tie 0 ≠ none := by
  obtain ⟨gap, one, two, shape⟩ := interval_natParts positive bounded
  have some : 0 < n * 2 ^ (54 - n.log2) := by positivity
  have one' : Nat.pow 10 0 = 1 := rfl
  have inside : (interval (natParts n)).contains ⟨n, 0⟩ = true := by
    rw [shape, Interval.contains]
    simp only [Int.toNat_zero, Int.neg_zero, one', Nat.mul_one]
    split
    · exact decide_eq_true (by omega)
    · exact decide_eq_true (by omega)
  have floor : (interval (natParts n)).value * (interval (natParts n)).unit * Nat.pow 10 (-0 : Int).toNat
      / ((interval (natParts n)).den * Nat.pow 10 (0 : Int).toNat) = n := by
    rw [shape]
    simp only [Int.toNat_zero, Int.neg_zero, one', Nat.mul_one]
    exact Nat.mul_div_cancel _ (by positivity)
  rw [Interval.nearest?]
  simp only [floor, inside]
  cases (interval (natParts n)).contains ⟨n + 1, 0⟩ <;> simp

/-- The only whole number that rounds to the double of a whole number is the number. -/
theorem eq_of_contains_natParts {m : Nat} {s : Scaled} (value : s.value = m)
    (inside : (interval (natParts n)).contains s = true) : m = n := by
  have log : n.log2 ≤ 52 := log2_le_of_lt bounded
  obtain ⟨gap, -, two, shape⟩ := interval_natParts positive bounded
  have bounds := value_of_contains inside
  have unit : (2 : ℚ) ^ ((natParts n).exponent - 2) * 2 ^ (54 - n.log2) = 1 := by
    rw [natParts_of_lt positive bounded, ← zpow_natCast, ← zpow_add₀ (by norm_num)]
    simp only
    rw [show (n.log2 : Int) - 52 - 2 + (54 - n.log2 : Nat) = 0 by omega, zpow_zero]
  have scaled {a b : ℚ} (le : a ≤ b) : a * 2 ^ (54 - n.log2) ≤ b * 2 ^ (54 - n.log2) :=
    mul_le_mul_of_nonneg_right le (by positivity)
  have below := scaled bounds.1
  have above := scaled bounds.2
  rw [mul_assoc, unit, mul_one, shape, value] at below above
  have below : n * 2 ^ (54 - n.log2) - gap ≤ m * 2 ^ (54 - n.log2) := by exact_mod_cast below
  have above : m * 2 ^ (54 - n.log2) ≤ n * 2 ^ (54 - n.log2) + 2 := by exact_mod_cast above
  have four : 4 ≤ 2 ^ (54 - n.log2) :=
    (show 4 = 2 ^ 2 by rfl).trans_le (Nat.pow_le_pow_right (by decide) (by omega))
  generalize 2 ^ (54 - n.log2) = den at below above four
  rcases Nat.lt_trichotomy m n with less | same | greater
  · have apart := Nat.mul_le_mul_right den (Nat.succ_le_of_lt less)
    rw [Nat.succ_mul] at apart
    omega
  · exact same
  · have apart := Nat.mul_le_mul_right den (Nat.succ_le_of_lt greater)
    rw [Nat.succ_mul] at apart
    omega

/-- The shortest decimal of a whole number is the number. -/
theorem shortest_whole (tie : Tie) :
    (shortest tie (natParts n)).value = n ∧ 0 ≤ (shortest tie (natParts n)).exponent := by
  obtain ⟨least, most⟩ := digitCount_le bounded
  have lead := lead_natParts positive bounded
  have grid : (interval (natParts n)).lead - Int.ofNat (digitCount n - 1) = 0 := by
    rw [lead]
    show (digitCount n : Int) - 1 - (digitCount n - 1 : Nat) = 0
    omega
  have found := nearest_natParts_ne_none positive bounded tie
  rcases shortest_cases tie (natParts n) with ⟨-, none⟩ | ⟨s, inside, taken, first⟩
  · have nothing := none (digitCount n - 1) (by omega)
    rw [grid] at nothing
    exact absurd nothing found
  · have whole : 0 ≤ s.exponent := by
      have later := first (digitCount n - 1) (by omega) (by rw [grid]; exact found)
      exact le_trans grid.ge later
    refine ⟨?_, whole.trans (taken ▸ exponent_trimZeros 17 s)⟩
    have value : s.value = (s.digits * 10 ^ s.exponent.toNat : Nat) := by
      obtain ⟨k, same⟩ := Int.eq_ofNat_of_zero_le whole
      rw [Scaled.value, same, zpow_natCast, Int.toNat_natCast]
      push_cast
      rfl
    rw [taken, value_trimZeros, value, eq_of_contains_natParts positive bounded value inside]

end Whole

end Viewsmith.Decimal
