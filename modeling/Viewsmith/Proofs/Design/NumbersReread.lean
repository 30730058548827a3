import Viewsmith.Proofs.Decimal.Tenths
import Viewsmith.Proofs.Design.RoundTrip
import Viewsmith.Proofs.Json.NumberTexts

/-!
# Numbers that are written and read again

Every finite number is read from its own text (`readNumber_documentText`), though not always as the same
number. A whole number is read as the same number unless it loses its last place (`reread_whole_iff`).
-/

namespace Viewsmith

open Json Decimal

/-! ## Finite numbers -/

/-- The number that is read from the text of a number. -/
def rereadNumber (x : Float) : Float := (readNumber? (documentText x)).getD x

theorem readNumber_of_writes {n : Numeral} {text : String} (writes : WritesNumeral n text.toList) :
    readNumber? text = n.value?.map Number.toFloat := by
  have scanned := scanNumeral_of_writes writes endsNumeral_nil
  rw [List.append_nil] at scanned
  rw [readNumber?, scanned]

/-- A finite number is read from its text. -/
theorem readNumber_documentText {x : Float} (finite : x.isFinite = true) :
    readNumber? (documentText x) = some (rereadNumber x) := by
  obtain ⟨n, y, writes, value⟩ := exists_numeral_documentText finite
  rw [rereadNumber, readNumber_of_writes writes, value]
  rfl

/-! ## Signs -/

def withSign (negative : Bool) (x : Float) : Float := if negative then -x else x

theorem withSign_double {p : Parts} (h : p.IsDouble) (negative : Bool) :
    withSign negative (double p) = double { p with negative := negative ^^ p.negative } := by
  cases negative with
  | false => rw [Bool.false_xor]; rfl
  | true => rw [Bool.true_xor]; exact neg_double h

theorem parts_withSign {p : Parts} (h : p.IsDouble) (negative : Bool) :
    parts (withSign negative (double p)) = { p with negative := negative ^^ p.negative } := by
  rw [withSign_double h]
  exact parts_double ⟨⟨h.fits, h.least, h.full⟩, h.most⟩

theorem isFinite_withSign {x : Float} (finite : x.isFinite = true) (negative : Bool) :
    (withSign negative x).isFinite = true := by
  cases negative with
  | false => exact finite
  | true => exact isFinite_neg finite

theorem withSign_inj {p q : Parts} (hp : p.IsDouble) (hq : q.IsDouble) (negative : Bool) :
    withSign negative (double p) = withSign negative (double q) ↔ p = q := by
  refine ⟨fun same => ?_, fun same => by rw [same]⟩
  have fields := congrArg parts same
  rw [parts_withSign hp, parts_withSign hq, Parts.mk.injEq, Bool.xor_right_inj] at fields
  obtain ⟨sign, mantissa, exponent⟩ := p
  exact Parts.mk.injEq .. ▸ fields

/-! ## Whole numbers -/

section Whole

variable {n : Nat} (positive : 0 < n) (bounded : n < 2 ^ 53) (negative : Bool)

include positive bounded

theorem isDouble_natParts_of_lt : (natParts n).IsDouble := by
  have log : n.log2 ≤ 52 := log2_le_of_lt bounded
  have most := (exponent_natParts positive).2
  exact ⟨isRounded_natParts positive, by omega⟩

/-- A whole number is written with a fraction of zero. -/
theorem documentText_whole : (documentText (withSign negative n.toUInt64.toFloat)).toList
    = signed negative (Nat.toDigits 10 n ++ ['.', '0']) := by
  have isDouble := isDouble_natParts_of_lt positive bounded
  rw [toFloat_eq positive (by omega), documentText_of_isFinite (isFinite_withSign (isFinite_double isDouble) _),
    parts_withSign isDouble, negative_natParts, Bool.xor_false, ← magnitudeChars_natParts positive bounded]
  rfl

/-- A whole number is read as a tenth of ten times the number. -/
theorem reread_whole : rereadNumber (withSign negative n.toUInt64.toFloat)
    = withSign negative ((10 * n).toUInt64.toFloat / powerOfTen 1) := by
  have few : n < 10 ^ 16 := bounded.trans (by decide)
  have writes := writes_signed (isRead_wholeNumeral few).writes rfl negative
  rw [← documentText_whole positive bounded] at writes
  have value := @value_of_real ((wholeNumeral n).signed negative) (isRead_wholeNumeral few).real
  have same : ((wholeNumeral n).signed negative).magnitude? = (wholeNumeral n).magnitude? := rfl
  rw [same, magnitude_wholeNumeral positive bounded] at value
  rw [rereadNumber, readNumber_of_writes writes, value]
  rfl

/-- A whole number is read as the same number, unless it loses its last place. -/
theorem reread_whole_iff :
    rereadNumber (withSign negative n.toUInt64.toFloat) = withSign negative n.toUInt64.toFloat
      ↔ ¬ LosesLastPlace n := by
  obtain ⟨q, isDouble, tenth, kept⟩ := tenth_eq_iff positive bounded
  rw [reread_whole positive bounded, tenth, toFloat_eq positive (by omega),
    withSign_inj isDouble (isDouble_natParts_of_lt positive bounded), kept]

end Whole

section Largest

variable {n : Nat} (bounded : n ≤ 2 ^ 53) (negative : Bool)

include bounded

/-- The ends of the range keep their last place as well. -/
theorem reread_iff :
    rereadNumber (withSign negative n.toUInt64.toFloat) = withSign negative n.toUInt64.toFloat
      ↔ ¬ LosesLastPlace n := by
  have ends : ∀ n ∈ [0, 2 ^ 53], ∀ negative : Bool,
      rereadNumber (withSign negative n.toUInt64.toFloat) = withSign negative n.toUInt64.toFloat
        ∧ ¬ LosesLastPlace n := by decide +kernel
  rcases Nat.eq_zero_or_pos n with rfl | positive
  · obtain ⟨same, kept⟩ := ends 0 (by decide) negative
    exact iff_of_true same kept
  · rcases Nat.lt_or_eq_of_le bounded with below | rfl
    · exact reread_whole_iff positive below negative
    · obtain ⟨same, kept⟩ := ends (2 ^ 53) (by decide) negative
      exact iff_of_true same kept

theorem roundWhole_of_le : roundWhole n = n := by
  rcases Nat.lt_or_eq_of_le bounded with below | rfl
  · have log : n.log2 - 52 = 0 := Nat.sub_eq_zero_of_le (log2_le_of_lt below)
    rw [roundWhole, log]
    have exact := nearestEven_mul_self Nat.one_pos n
    rw [Nat.mul_one] at exact
    rw [Nat.pow_zero, exact, Nat.mul_one]
  · decide +kernel

/-- The double of a whole number is the number. -/
theorem value_whole :
    (parts (withSign negative n.toUInt64.toFloat)).value = bif negative then -(n : ℚ) else n := by
  rcases Nat.eq_zero_or_pos n with rfl | positive
  · rw [zero_toFloat, parts_withSign (isDouble_zero false), Parts.value, Parts.magnitude, Parts.zero]
    simp
  · have log : n.log2 ≤ 53 := log2_le_of_lt (by omega)
    have most := (exponent_natParts positive).2
    have isDouble : (natParts n).IsDouble := ⟨isRounded_natParts positive, by omega⟩
    have magnitude := magnitude_natParts positive
    rw [roundWhole_of_le bounded] at magnitude
    rw [toFloat_eq positive (by omega), parts_withSign isDouble, negative_natParts, Bool.xor_false, ← magnitude]
    rfl

end Largest

end Viewsmith
