import Viewsmith.Proofs.Decimal.Rounding

/-!
# Doubles and their parts

A finite double is its parts (`parts_double`), and an operation on finite doubles rounds the exact result,
told by its parts (`double_mul`, `double_div`). What is beyond the range of doubles is infinite.
-/

namespace Viewsmith.Decimal

open Float.Model Float.Model.UnpackedFloat

/-! ## Fields of a word -/

theorem toNat_packComponents (s : Sign) (e : BitVec 11) (m : BitVec 52) :
    (packComponents .binary64 s e m).toNat = s.toBitVec.toNat * 2 ^ 63 + e.toNat * 2 ^ 52 + m.toNat := by
  have outer : (packComponents .binary64 s e m).toNat = (s.toBitVec ++ e).toNat <<< 52 ||| m.toNat :=
    BitVec.toNat_append _ _
  have inner : (s.toBitVec ++ e).toNat = s.toBitVec.toNat <<< 11 ||| e.toNat := BitVec.toNat_append _ _
  rw [outer, inner, ← Nat.shiftLeft_add_eq_or_of_lt e.isLt, ← Nat.shiftLeft_add_eq_or_of_lt m.isLt,
    Nat.shiftLeft_eq, Nat.shiftLeft_eq]
  ring

section Fields

variable (b : BitVec 64)

theorem toNat_unpackMantissa : (@unpackMantissa .binary64 b).toNat = b.toNat % 2 ^ 52 := by
  rw [unpackMantissa_def, BitVec.extractLsb'_toNat, Nat.shiftRight_zero]

theorem toNat_unpackExponent : (@unpackExponent .binary64 b).toNat = b.toNat / 2 ^ 52 % 2 ^ 11 := by
  rw [unpackExponent_def, BitVec.extractLsb'_toNat, Nat.shiftRight_eq_div_pow]

theorem toNat_unpackSign : (@unpackSign .binary64 b).toNat = b.toNat / 2 ^ 63 := by
  have small : b.toNat / 2 ^ 63 < 2 ^ 1 := by
    have := b.isLt
    omega
  rw [unpackSign_def, BitVec.extractLsb'_toNat, Nat.shiftRight_eq_div_pow]
  exact Nat.mod_eq_of_lt small

end Fields

theorem ofBitVec_unpackSign (b : BitVec 64) :
    Sign.ofBitVec (@unpackSign .binary64 b) = signOf (decide (b.toNat / 2 ^ 63 = 1)) := by
  have value := toNat_unpackSign b
  have small : b.toNat / 2 ^ 63 < 2 := by
    have := b.isLt
    omega
  have set : @unpackSign .binary64 b = 0#1 ↔ b.toNat / 2 ^ 63 = 0 := by
    rw [← BitVec.toNat_inj, value]
    rfl
  rw [Sign.ofBitVec, signOf]
  by_cases zero : b.toNat / 2 ^ 63 = 0
  · rw [if_pos (set.mpr zero), zero]
    rfl
  · have one : b.toNat / 2 ^ 63 = 1 := by omega
    rw [if_neg (fun same => zero (set.mp same)), one]
    rfl

theorem eq_neg_one_iff (e : BitVec 11) : e = -1#_ ↔ e.toNat = 2047 := by
  rw [← BitVec.toNat_inj]
  rfl

theorem eq_zero_iff {w : Nat} (e : BitVec w) : e = 0#_ ↔ e.toNat = 0 := by
  rw [← BitVec.toNat_inj, BitVec.toNat_ofNat, Nat.zero_mod]

/-- The mantissa of a word that is not subnormal. -/
theorem toNat_hiddenBit (m : BitVec 52) : (1#1 ++ m).toNat = 2 ^ 52 + m.toNat := by
  rw [BitVec.toNat_append, ← Nat.shiftLeft_add_eq_or_of_lt m.isLt, Nat.shiftLeft_eq]
  rfl

def exponentField (x : Float) : Nat := x.toBits.toNat / 2 ^ 52 % 2 ^ 11

/-- The field of a double that holds its mantissa, without the leading bit. -/
def mantissaField (x : Float) : Nat := x.toBits.toNat % 2 ^ 52

theorem parts_eq (x : Float) : parts x =
    if exponentField x = 0 then ⟨decide (x.toBits.toNat / 2 ^ 63 = 1), mantissaField x, -1074⟩
    else ⟨decide (x.toBits.toNat / 2 ^ 63 = 1), 2 ^ 52 + mantissaField x, exponentField x - 1075⟩ := by
  have whole : parts x = ⟨decide (x.toBits.toNat / 2 ^ 63 = 1),
    if exponentField x = 0 then mantissaField x else 2 ^ 52 + mantissaField x,
    if exponentField x = 0 then -1074 else (exponentField x : Int) - 1075⟩ := rfl
  rw [whole]
  split <;> rfl

/-- A double is taken apart into its parts, unless it is not finite. -/
theorem unpack_eq (x : Float) : x.toModel.unpack =
    if exponentField x = 2047 then
      (if mantissaField x = 0 then .infinity (signOf (parts x).negative) else .notANumber)
    else (parts x).unpacked := by
  have exponent : (@unpackExponent .binary64 x.toModel.toBits.toBitVec).toNat = exponentField x :=
    toNat_unpackExponent _
  have mantissa : (@unpackMantissa .binary64 x.toModel.toBits.toBitVec).toNat = mantissaField x :=
    toNat_unpackMantissa _
  have sign : Sign.ofBitVec (@unpackSign .binary64 x.toModel.toBits.toBitVec)
      = signOf (parts x).negative := ofBitVec_unpackSign _
  rw [Float.Model.unpack, UnpackedFloat.unpack]
  simp only [eq_neg_one_iff, eq_zero_iff, toNat_hiddenBit, exponent, mantissa, sign]
  rw [Parts.unpacked, parts_eq]
  by_cases special : exponentField x = 2047
  · simp only [special, if_true]
  · simp only [special, if_false]
    by_cases low : exponentField x = 0
    · simp only [low, if_true]
      rfl
    · have nonzero : 2 ^ 52 + mantissaField x ≠ 0 := by omega
      simp only [low, if_false, nonzero, dif_neg, not_false_iff]
      congr 1

/-! ## Finite doubles -/

/-- Whether parts have at most 53 bits, all of which are used unless the last place is the least one. -/
structure Parts.IsRounded (p : Parts) : Prop where
  fits : p.mantissa < 2 ^ 53
  least : -1074 ≤ p.exponent
  full : 2 ^ 52 ≤ p.mantissa ∨ p.exponent = -1074

structure Parts.IsDouble (p : Parts) : Prop extends p.IsRounded where
  most : p.exponent ≤ 971

def double (p : Parts) : Float := .ofModel (.pack p.unpacked)

theorem isFinite_iff {x : Float} : x.isFinite = true ↔ exponentField x ≠ 2047 := by
  rw [Float.isFinite, Float.Model.isFinite, unpack_eq]
  by_cases special : exponentField x = 2047
  · rw [if_pos special]
    refine iff_of_false ?_ (not_not_intro special)
    split
    · exact Bool.false_ne_true
    · exact Bool.false_ne_true
  · rw [if_neg special, Parts.unpacked]
    refine iff_of_true ?_ special
    split
    · rfl
    · rfl

theorem unpack_of_isFinite {x : Float} (finite : x.isFinite = true) :
    x.toModel.unpack = (parts x).unpacked := by
  rw [unpack_eq, if_neg (isFinite_iff.mp finite)]

/-- The parts of a finite double. -/
theorem isDouble_parts {x : Float} (finite : x.isFinite = true) : (parts x).IsDouble := by
  have special := isFinite_iff.mp finite
  have mantissa : mantissaField x < 2 ^ 52 := Nat.mod_lt _ (by decide)
  have exponent : exponentField x < 2 ^ 11 := Nat.mod_lt _ (by decide)
  rw [parts_eq]
  split
  · exact ⟨⟨by show mantissaField x < 2 ^ 53; omega, le_rfl, Or.inr rfl⟩, by show (-1074 : Int) ≤ 971; decide⟩
  · refine ⟨⟨?_, ?_, Or.inl (Nat.le_add_right _ _)⟩, ?_⟩
    · show 2 ^ 52 + mantissaField x < 2 ^ 53
      omega
    · show -1074 ≤ (exponentField x : Int) - 1075
      omega
    · show (exponentField x : Int) - 1075 ≤ 971
      omega

theorem toNat_signOf (negative : Bool) : (signOf negative).toBitVec.toNat = negative.toNat := by
  cases negative <;> rfl

/-- The word of the double that parts make up. -/
theorem toNat_toBits_double {p : Parts} (h : p.IsDouble) : (double p).toBits.toNat =
    p.negative.toNat * 2 ^ 63
      + (if p.mantissa < 2 ^ 52 then 0 else (p.exponent + 1075).toNat) * 2 ^ 52 + p.mantissa % 2 ^ 52 := by
  have word : (double p).toBits.toNat = (UnpackedFloat.pack .binary64 p.unpacked).toNat := rfl
  have fits := h.fits
  have least := h.least
  have most := h.most
  rw [word, Parts.unpacked]
  by_cases zero : p.mantissa = 0
  · rw [dif_pos zero, UnpackedFloat.pack, packedZero, toNat_packComponents, toNat_signOf, zero]
    rfl
  · rw [dif_neg zero, UnpackedFloat.pack]
    have bias : (p.exponent + Format.binary64.exponentBias + (52 : Nat)).toNat
        = (p.exponent + 1075).toNat := by
      have value : (Format.binary64.exponentBias : Int) = 1023 := rfl
      omega
    simp only [bias]
    rw [if_neg (by omega)]
    by_cases low : p.mantissa < 2 ^ 52
    · have log : p.mantissa.log2 + 1 ≠ Format.binary64.mantissaBits := by
        have := log2_le_of_lt low
        show p.mantissa.log2 + 1 ≠ 53
        omega
      rw [if_neg log, toNat_packComponents, toNat_signOf, if_pos low, BitVec.toNat_ofNat, BitVec.toNat_ofNat]
    · have log : p.mantissa.log2 + 1 = Format.binary64.mantissaBits := by
        have upper := log2_le_of_lt fits
        have lower := (Nat.le_log2 zero).mpr (Nat.le_of_not_lt low)
        show p.mantissa.log2 + 1 = 53
        omega
      rw [if_pos log, toNat_packComponents, toNat_signOf, if_neg low, BitVec.toNat_ofNat, BitVec.toNat_ofNat,
        Nat.mod_eq_of_lt (show (p.exponent + 1075).toNat < 2 ^ 11 by omega)]

section Double

variable {p : Parts} (h : p.IsDouble)

include h

theorem exponentField_double : exponentField (double p)
    = if p.mantissa < 2 ^ 52 then 0 else (p.exponent + 1075).toNat := by
  have fits := h.fits
  have most := h.most
  rw [exponentField, toNat_toBits_double h]
  cases p.negative <;> split <;> simp <;> omega

theorem mantissaField_double : mantissaField (double p) = p.mantissa % 2 ^ 52 := by
  rw [mantissaField, toNat_toBits_double h]
  omega

theorem isFinite_double : (double p).isFinite = true := by
  have most := h.most
  rw [isFinite_iff, exponentField_double h]
  split <;> omega

/-- Parts are found again in the double that they make up. -/
theorem parts_double : parts (double p) = p := by
  have fits := h.fits
  have least := h.least
  have most := h.most
  have full := h.full
  have sign : decide ((double p).toBits.toNat / 2 ^ 63 = 1) = p.negative := by
    rw [toNat_toBits_double h]
    cases p.negative <;> split <;> simp <;> omega
  rw [parts_eq, exponentField_double h, mantissaField_double h, sign]
  obtain ⟨negative, mantissa, exponent⟩ := p
  by_cases low : mantissa < 2 ^ 52
  · simp only at full ⊢
    rw [if_pos low, if_pos rfl, Nat.mod_eq_of_lt low, full.resolve_left (by omega)]
  · simp only at fits least full ⊢
    rw [if_neg low, if_neg (by omega), Parts.mk.injEq]
    exact ⟨rfl, by omega, by omega⟩

theorem unpack_double : (double p).toModel.unpack = p.unpacked := by
  rw [unpack_of_isFinite (isFinite_double h), parts_double h]

end Double

/-- What is beyond the range of doubles is infinite. -/
theorem isDouble_of_isInf_eq_false {p : Parts} (h : p.IsRounded) (bounded : (double p).isInf = false) :
    p.IsDouble := by
  refine ⟨h, ?_⟩
  by_contra beyond
  have full : 2 ^ 52 ≤ p.mantissa := h.full.resolve_right (by omega)
  have word : (double p).toBits.toNat = (UnpackedFloat.pack .binary64 p.unpacked).toNat := rfl
  have infinity : UnpackedFloat.pack .binary64 p.unpacked
      = packComponents .binary64 (signOf p.negative) (-1#_) 0 := by
    have bias : (Format.binary64.exponentBias : Int) = 1023 := rfl
    rw [Parts.unpacked, dif_neg (by omega), UnpackedFloat.pack]
    simp only
    rw [if_pos (by omega), packedInfinity]
  rw [infinity, toNat_packComponents, toNat_signOf] at word
  have exponent : exponentField (double p) = 2047 := by
    rw [exponentField, word]
    cases p.negative <;> rfl
  have mantissa : mantissaField (double p) = 0 := by
    rw [mantissaField, word]
    cases p.negative <;> rfl
  rw [Float.isInf, Float.Model.isInf, unpack_eq, if_pos exponent, if_pos mantissa] at bounded
  cases bounded

/-! ## Operations -/

/-- What is rounded is rounded to parts of a double, perhaps beyond the range. -/
theorem isRounded_rounded {negative : Bool} {num den : Nat} {e : Int} (positive : 0 < den)
    (enough : 2 ^ 52 ≤ num / den ∨ e ≤ -1074) : (rounded negative num den e).IsRounded := by
  have most := @nearestEven_excess_le num _ e positive
  have least : -1074 ≤ e + excess num den e := by
    rw [excess]
    omega
  have full : 2 ^ 52 ≤ nearestEven num (den * 2 ^ excess num den e) ∨ e + excess num den e = -1074 := by
    have log : 52 ≤ (num / den).log2 ∨ e ≤ -1074 :=
      enough.imp_left fun large => (Nat.le_log2 (by omega)).mpr large
    by_cases low : (num / den).log2 + e - 52 ≤ -1074
    · right
      rw [excess]
      omega
    · left
      have amount : (num / den).log2 = 52 + excess num den e := by
        rw [excess]
        omega
      have nonzero : num / den ≠ 0 := by
        intro none
        rw [none] at amount
        simp at amount
        omega
      refine le_nearestEven ?_ ?_
      · positivity
      · have lower := Nat.log2_self_le nonzero
        rw [amount, Nat.pow_add, Nat.le_div_iff_mul_le positive] at lower
        calc 2 ^ 52 * (den * 2 ^ excess num den e) = 2 ^ 52 * 2 ^ excess num den e * den := by ring
          _ ≤ num := lower
  rw [rounded, settle]
  split
  · rename_i less
    exact ⟨less, least, full⟩
  · refine ⟨by show 2 ^ 52 < 2 ^ 53; decide, ?_, Or.inl le_rfl⟩
    show -1074 ≤ e + (excess num den e : Int) + 1
    omega

def Parts.opposite (p : Parts) : Parts := { p with negative := !p.negative }

theorem Parts.IsDouble.opposite {p : Parts} (h : p.IsDouble) : p.opposite.IsDouble :=
  ⟨⟨h.fits, h.least, h.full⟩, h.most⟩

theorem neg_of_isFinite {x : Float} (finite : x.isFinite = true) : -x = double (parts x).opposite := by
  have steps : -x = .ofModel (.pack x.toModel.unpack.neg) := rfl
  have mantissa : (parts x).opposite.mantissa = (parts x).mantissa := rfl
  have sign : signOf (parts x).opposite.negative = -signOf (parts x).negative := by
    rw [Parts.opposite]
    cases (parts x).negative <;> rfl
  rw [steps, unpack_of_isFinite finite, double]
  congr 2
  rw [Parts.unpacked, Parts.unpacked]
  by_cases zero : (parts x).mantissa = 0
  · rw [dif_pos zero, dif_pos (mantissa.trans zero), sign]
    rfl
  · rw [dif_neg zero, dif_neg (mantissa ▸ zero), UnpackedFloat.neg]
    simp only [sign]
    rfl

theorem isFinite_neg {x : Float} (finite : x.isFinite = true) : (-x).isFinite = true := by
  rw [neg_of_isFinite finite]
  exact isFinite_double (isDouble_parts finite).opposite

theorem neg_double {p : Parts} (h : p.IsDouble) : -double p = double p.opposite := by
  rw [neg_of_isFinite (isFinite_double h), parts_double h]

theorem signOf_mul (a b : Bool) : signOf a * signOf b = signOf (a ^^ b) := by
  cases a <;> cases b <;> rfl

theorem signOf_div (a b : Bool) : signOf a / signOf b = signOf (a ^^ b) := by
  cases a <;> cases b <;> rfl

/-- The exponent under which two mantissas are divided: low enough for the quotient to have all bits. -/
def quotientExponent (p q : Parts) : Int :=
  min (p.exponent - q.exponent)
    (max (p.mantissa.log2 + p.exponent - (q.mantissa.log2 + q.exponent) - 53) (-1074))

def quotientParts (p q : Parts) : Parts :=
  rounded (p.negative ^^ q.negative)
    (p.mantissa * 2 ^ (p.exponent - q.exponent - quotientExponent p q).toNat) q.mantissa (quotientExponent p q)

section Operations

variable {p q : Parts} (hp : p.IsDouble) (hq : q.IsDouble)

include hp hq

/-- A product is rounded. -/
theorem double_mul (first : p.mantissa ≠ 0) (second : q.mantissa ≠ 0) : double p * double q
    = double (rounded (p.negative ^^ q.negative) (p.mantissa * q.mantissa) 1 (p.exponent + q.exponent)) := by
  have steps : double p * double q
      = .ofModel (.pack (.mul .binary64 (double p).toModel.unpack (double q).toModel.unpack)) := rfl
  rw [steps, unpack_double hp, unpack_double hq, Parts.unpacked, Parts.unpacked, dif_neg first,
    dif_neg second, UnpackedFloat.mul, signOf_mul, roundWithAccuracy_eq Nat.one_pos (.exact _)]
  rfl

omit hp hq in
theorem divCore_eq (p q : Parts) :
    divCore .binary64 p.mantissa p.exponent q.mantissa q.exponent
      = (p.mantissa * 2 ^ (p.exponent - q.exponent - quotientExponent p q).toNat / q.mantissa,
        quotientExponent p q,
        accuracyOfFraction
          (p.mantissa * 2 ^ (p.exponent - q.exponent - quotientExponent p q).toNat % q.mantissa) q.mantissa) := by
  have same : min (p.exponent - q.exponent) (Format.binary64.targetExponent
      (totalExponent p.mantissa p.exponent - totalExponent q.mantissa q.exponent)) = quotientExponent p q := by
    rw [targetExponent_eq, totalExponent, totalExponent, quotientExponent]
    congr 2
    omega
  rw [divCore, same, Nat.shiftLeft_eq]

/-- A quotient is rounded. -/
theorem double_div (first : p.mantissa ≠ 0) (second : q.mantissa ≠ 0) : double p / double q
    = double (quotientParts p q) := by
  have steps : double p / double q
      = .ofModel (.pack (.div .binary64 (double p).toModel.unpack (double q).toModel.unpack)) := rfl
  rw [steps, unpack_double hp, unpack_double hq, Parts.unpacked, Parts.unpacked, dif_neg first,
    dif_neg second, UnpackedFloat.div, divCore_eq, signOf_div]
  simp only
  rw [roundWithAccuracy_eq (Nat.pos_of_ne_zero second) (.fraction _ (Nat.pos_of_ne_zero second))]
  rfl

end Operations

def Parts.zero (negative : Bool) : Parts := ⟨negative, 0, -1074⟩

theorem isDouble_zero (negative : Bool) : (Parts.zero negative).IsDouble :=
  ⟨⟨by show 0 < 2 ^ 53; decide, le_rfl, Or.inr rfl⟩, by show (-1074 : Int) ≤ 971; decide⟩

section Zero

variable {q : Parts} (hq : q.IsDouble) (nonzero : q.mantissa ≠ 0) (negative : Bool)

include hq nonzero

theorem zero_mul_double : double (.zero negative) * double q = double (.zero (negative ^^ q.negative)) := by
  have steps : double (.zero negative) * double q = .ofModel (.pack
      (.mul .binary64 (double (.zero negative)).toModel.unpack (double q).toModel.unpack)) := rfl
  rw [steps, unpack_double (isDouble_zero negative), unpack_double hq, Parts.unpacked, Parts.unpacked,
    dif_pos (show (Parts.zero negative).mantissa = 0 from rfl), dif_neg nonzero, UnpackedFloat.mul,
    signOf_mul]
  rfl

theorem zero_div_double : double (.zero negative) / double q = double (.zero (negative ^^ q.negative)) := by
  have steps : double (.zero negative) / double q = .ofModel (.pack
      (.div .binary64 (double (.zero negative)).toModel.unpack (double q).toModel.unpack)) := rfl
  rw [steps, unpack_double (isDouble_zero negative), unpack_double hq, Parts.unpacked, Parts.unpacked,
    dif_pos (show (Parts.zero negative).mantissa = 0 from rfl), dif_neg nonzero, UnpackedFloat.div,
    signOf_div]
  rfl

end Zero

/-! ## Quotients -/

section Quotients

variable {p q : Parts} (hp : p.IsDouble) (first : p.mantissa ≠ 0) (second : q.mantissa ≠ 0)

include hp first second

/-- A quotient is formed with all the bits of a double. -/
theorem isRounded_quotientParts : (quotientParts p q).IsRounded := by
  refine isRounded_rounded (Nat.pos_of_ne_zero second) ?_
  by_cases low : quotientExponent p q ≤ -1074
  · exact Or.inr low
  left
  have bits := log2_le_of_lt hp.fits
  have amount : (p.exponent - q.exponent - quotientExponent p q).toNat + p.mantissa.log2
      = 53 + q.mantissa.log2 := by
    rw [quotientExponent] at low ⊢
    omega
  rw [Nat.le_div_iff_mul_le (Nat.pos_of_ne_zero second)]
  generalize (p.exponent - q.exponent - quotientExponent p q).toNat = shift at amount
  calc 2 ^ 52 * q.mantissa ≤ 2 ^ 52 * 2 ^ (q.mantissa.log2 + 1) :=
        Nat.mul_le_mul_left _ q.mantissa.lt_log2_self.le
    _ = 2 ^ (shift + p.mantissa.log2) := by
        rw [← Nat.pow_add, amount]
        congr 1
        omega
    _ = 2 ^ p.mantissa.log2 * 2 ^ shift := by rw [Nat.pow_add, Nat.mul_comm]
    _ ≤ p.mantissa * 2 ^ shift := Nat.mul_le_mul_right _ (Nat.log2_self_le first)

omit hp in
/-- A quotient is not much larger than the quotient of the leading bits. -/
theorem exponent_quotientParts_le : (quotientParts p q).exponent ≤
    max (p.mantissa.log2 + p.exponent - (q.mantissa.log2 + q.exponent) - 51) (-1073) := by
  have bound := (exponent_rounded (p.negative ^^ q.negative)
    (p.mantissa * 2 ^ (p.exponent - q.exponent - quotientExponent p q).toNat) q.mantissa
    (quotientExponent p q)).2
  have amount : 0 ≤ p.exponent - q.exponent - quotientExponent p q := by
    rw [quotientExponent]
    omega
  have log : ((p.mantissa * 2 ^ (p.exponent - q.exponent - quotientExponent p q).toNat / q.mantissa).log2 : Int)
      ≤ max (p.mantissa.log2 + (p.exponent - q.exponent - quotientExponent p q) - q.mantissa.log2) 0 := by
    have quotient := log2_div_le (a := p.mantissa * 2 ^ (p.exponent - q.exponent - quotientExponent p q).toNat)
      (Nat.pos_of_ne_zero second)
    rw [log2_mul_two_pow (Nat.pos_of_ne_zero first)] at quotient
    omega
  rw [quotientParts]
  rw [excess] at bound
  have least : quotientExponent p q
      ≤ max (p.mantissa.log2 + p.exponent - (q.mantissa.log2 + q.exponent) - 53) (-1074) := by
    rw [quotientExponent]
    omega
  omega

end Quotients

end Viewsmith.Decimal
