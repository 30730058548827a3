import Viewsmith.Proofs.Decimal.ShortestDecimals
import Viewsmith.Proofs.Json.NumeralValues
import Viewsmith.Proofs.Json.Numerals

/-!
# The texts of numbers as numerals

The text of a finite number in a document is the text of a numeral (`exists_numeral_documentText`), which
has a value: the shortest decimal of the largest double is the only one that comes near the end of the range,
and it is read. A whole number is written with a fraction of zero, and read as ten times the number, divided by
ten (`documentText_natParts`).
-/

namespace Viewsmith.Decimal

def Scaled.lead (s : Scaled) : Int := s.exponent + (digitCount s.digits : Int) - 1

def scaledChars (s : Scaled) : List Char :=
  if -5 ≤ s.lead ∧ s.lead < 16 then positional ['.', '0'] s else scientific s

def magnitudeChars (p : Parts) : List Char :=
  if p.mantissa = 0 then ['0', '.', '0'] else scaledChars (shortest .even p)

theorem documentText_of_isFinite {x : Float} (finite : x.isFinite = true) :
    (documentText x).toList = signed (parts x).negative (magnitudeChars (parts x)) := by
  rw [documentText, if_pos finite, String.toList_ofList]
  rfl

end Viewsmith.Decimal

namespace Viewsmith.Json

open Decimal

/-! ## Digits -/

theorem ofDigitChars_lt {digits : List Char} (h : ∀ c ∈ digits, c.isDigit = true) :
    Nat.ofDigitChars 10 digits 0 < 10 ^ digits.length := by
  induction digits with
  | nil => exact Nat.one_pos
  | cons c rest ih =>
      rw [List.forall_mem_cons] at h
      have others := ih h.2
      have digit : c.toNat - '0'.toNat < 10 := by
        have bounds := h.1
        simp only [Char.isDigit, Bool.and_eq_true, decide_eq_true_eq, UInt32.le_iff_toNat_le] at bounds
        have high : c.toNat ≤ 57 := bounds.2
        show c.toNat - 48 < 10
        omega
      rw [Nat.ofDigitChars_cons, Nat.ofDigitChars_eq_ofDigitChars_zero, List.length_cons, Nat.pow_succ,
        Nat.mul_zero, Nat.zero_add]
      calc 10 ^ rest.length * (c.toNat - '0'.toNat) + Nat.ofDigitChars 10 rest 0
          < 10 ^ rest.length * (c.toNat - '0'.toNat) + 10 ^ rest.length := by omega
        _ = 10 ^ rest.length * (c.toNat - '0'.toNat + 1) := by rw [Nat.mul_succ]
        _ ≤ 10 ^ rest.length * 10 := Nat.mul_le_mul_left _ (by omega)

/-- Zeros behind the digits of a number multiply it. -/
theorem toDigits_mul_ten_pow {n : Nat} (positive : 0 < n) (k : Nat) :
    Nat.toDigits 10 (n * 10 ^ k) = Nat.toDigits 10 n ++ List.replicate k '0' := by
  induction k with
  | zero => simp
  | succ k ih =>
      have large : ¬ n * 10 ^ (k + 1) < 10 := by
        have tens : 1 ≤ n * 10 ^ k := Nat.mul_pos positive (by positivity)
        rw [Nat.pow_succ, ← Nat.mul_assoc]
        omega
      have last : n * 10 ^ (k + 1) % 10 = 0 := by
        rw [Nat.pow_succ, ← Nat.mul_assoc, Nat.mul_mod_left]
      have front : n * 10 ^ (k + 1) / 10 = n * 10 ^ k := by
        rw [Nat.pow_succ, ← Nat.mul_assoc, Nat.mul_div_cancel _ (by decide)]
      rw [Nat.toDigits_eq_if (by decide), if_neg large, last, front, ih, List.append_assoc,
        List.replicate_succ']
      rfl

theorem ten_pow_le_of_digits {n : Nat} (positive : 0 < n) : 10 ^ (digitCount n - 1) ≤ n := by
  by_contra less
  have count : 1 ≤ digitCount n := Nat.length_toDigits_pos
  rcases Nat.lt_or_ge 1 (digitCount n) with more | one
  · have short := (Nat.length_toDigits_le_iff (by decide) (by omega)).mpr (Nat.lt_of_not_le less)
    change digitCount n ≤ digitCount n - 1 at short
    omega
  · rw [Nat.le_antisymm one count] at less
    exact less positive

/-! ## Signs -/

def Numeral.signed (n : Numeral) (negative : Bool) : Numeral := { n with negative }

theorem writes_signed {n : Numeral} {text : List Char} (h : WritesNumeral n text)
    (unsigned : n.negative = false) (negative : Bool) :
    WritesNumeral (n.signed negative) (Decimal.signed negative text) := by
  cases h with
  | mk run leading fractional scaled =>
      cases unsigned
      have whole := @WritesNumeral.mk negative _ _ _ _ _ run leading fractional scaled
      cases negative
      · exact whole
      · exact whole

/-- A numeral with a fraction or an exponent is read as a double. -/
theorem value_of_real {n : Numeral} (real : n.fraction = [] → n.exponent ≠ none) :
    n.value? = n.magnitude?.map fun x => .real (if n.negative then -x else x) := by
  have other (dropped : List Char) :
      ¬ (n.fraction.isEmpty = true ∧ n.exponent.isNone = true ∧ dropped.isEmpty = true) := by
    rintro ⟨empty, plain, -⟩
    exact real (List.isEmpty_iff.mp empty) (Option.isNone_iff_eq_none.mp plain)
  rw [Numeral.value?]
  exact if_neg (other _)

/-! ## Numerals of few whole digits -/

/-- A significand that is not scaled up is within range. -/
theorem isSome_scale_of_nonpos {n : Nat} (bounded : n < wordLimit) {exponent : Int} (small : exponent ≤ 0) :
    (scale? n exponent).isSome = true := by
  refine isSome_scale bounded fun places same => ?_
  obtain rfl : places = 0 := by omega
  rw [Nat.pow_zero, Nat.mul_one]
  exact bounded.le.trans (by decide +kernel)

section Short

variable {n : Numeral} (run : ∀ c ∈ n.whole, c.isDigit = true) (short : n.whole.length ≤ 16)

include run short

theorem gather_whole : gather 0 n.whole = (Nat.ofDigitChars 10 n.whole 0, []) := by
  refine gather_of_lt ((ofDigitChars_lt run).trans_le ?_)
  calc 10 ^ n.whole.length ≤ 10 ^ 16 := Nat.pow_le_pow_right (by decide) short
    _ ≤ wordLimit := by decide

/-- The whole digits are all taken, and so are digits of the fraction, but for those that do not fit. -/
theorem significand_of_short : ∃ unread ≤ n.fraction.length,
    n.shift = (unread : Int) - n.fraction.length ∧
      n.significand * 10 ^ unread ≤ Nat.ofDigitChars 10 (n.whole ++ n.fraction) 0 := by
  have whole := gather_whole run short
  have bounded : (gather 0 n.whole).1 < wordLimit := gather_lt _ (by decide)
  obtain ⟨-, fewer, -, below⟩ := @gather_spec _ _ n.fraction _ bounded rfl
  refine ⟨_, fewer, ?_, below.trans_eq ?_⟩
  · rw [Numeral.shift]
    have none : (gather 0 n.whole).2.length = 0 := by rw [whole, List.length_nil]
    omega
  · rw [whole, Nat.ofDigitChars_append]
    rfl

/-- Without an exponent the numeral is smaller than its first digits. -/
theorem isSome_magnitude_of_plain (plain : n.exponent = none) : n.magnitude?.isSome = true := by
  obtain ⟨unread, fewer, shift, -⟩ := significand_of_short run short
  rw [magnitude_of_none plain]
  exact isSome_scale_of_nonpos n.significand_lt (by omega)

/-- With an exponent it must not reach the end of the range. -/
theorem isSome_magnitude_of_scaled {minus : Bool} {letter : List Char}
    (scaled : n.exponent = some (minus, letter)) (within : minus = false →
      digitsValue letter ≤ exponentLimit ∧
        Nat.ofDigitChars 10 (n.whole ++ n.fraction) 0 * 10 ^ digitsValue letter
          ≤ readableBound * 10 ^ n.fraction.length) : n.magnitude?.isSome = true := by
  obtain ⟨unread, fewer, shift, below⟩ := significand_of_short run short
  rw [magnitude_of_some scaled]
  cases minus with
  | true =>
      split
      · rw [if_pos (Or.inr rfl)]
        rfl
      · refine isSome_scale_of_nonpos n.significand_lt ?_
        rw [if_pos rfl]
        omega
  | false =>
      obtain ⟨few, within⟩ := within rfl
      rw [if_neg (Nat.not_lt.mpr few)]
      refine isSome_scale n.significand_lt fun places same => ?_
      simp only [Bool.false_eq_true, if_false] at same
      have total : places + n.fraction.length = unread + digitsValue letter := by omega
      refine Nat.le_of_mul_le_mul_right ?_ (show 0 < 10 ^ n.fraction.length by positivity)
      calc n.significand * 10 ^ places * 10 ^ n.fraction.length
          = n.significand * 10 ^ unread * 10 ^ digitsValue letter := by
            rw [Nat.mul_assoc, Nat.mul_assoc, ← Nat.pow_add, ← Nat.pow_add, total]
        _ ≤ _ := Nat.mul_le_mul_right _ below
        _ ≤ _ := within

end Short

/-! ## Decimals as numerals -/

/-- Whether an unsigned numeral has a text, and is read as a double. -/
structure Numeral.IsRead (n : Numeral) (text : List Char) : Prop where
  unsigned : n.negative = false
  writes : WritesNumeral n text
  real : n.fraction = [] → n.exponent ≠ none
  read : n.magnitude?.isSome = true

/-- The numeral of a whole number, with a fraction of zero. -/
def wholeNumeral (n : Nat) : Numeral := ⟨false, Nat.toDigits 10 n, ['0'], none⟩

theorem isRead_wholeNumeral {n : Nat} (bounded : n < 10 ^ 16) :
    (wholeNumeral n).IsRead (Nat.toDigits 10 n ++ ['.', '0']) where
  unsigned := rfl
  writes := .mk (isDigits_toDigits n) (toDigits_of_head?_zero n)
    (.some ⟨List.cons_ne_nil _ _, List.forall_mem_singleton.mpr rfl⟩) .none
  real := fun empty => absurd empty (List.cons_ne_nil _ _)
  read := isSome_magnitude_of_plain (isDigits_toDigits n).digits
    ((Nat.length_toDigits_le_iff (by decide) (by decide)).mpr bounded) rfl

section Scaleds

variable {s : Scaled}

/-- A decimal that is a whole number is written like the whole number. -/
theorem positional_of_nonneg (shape : s.digits ≠ 0 ∨ s.exponent = 0) (whole : 0 ≤ s.exponent) :
    positional ['.', '0'] s = Nat.toDigits 10 (s.digits * 10 ^ s.exponent.toNat) ++ ['.', '0'] := by
  rw [positional]
  simp only [if_pos whole, digitChars]
  refine congrArg (· ++ _) ?_
  rcases Nat.eq_zero_or_pos s.digits with none | positive
  · rw [shape.resolve_left (not_not.mpr none)]
    simp
  · exact (toDigits_mul_ten_pow positive _).symm

/-- Digits with a point between them, of which only a single one may be a zero in front. -/
theorem isRead_fraction {digits : List Char} (run : ∀ c ∈ digits, c.isDigit = true) {cut : Nat}
    (front : 0 < cut) (back : cut < digits.length) (short : cut ≤ 16)
    (leading : cut ≠ 1 → digits.head? ≠ some '0') :
    Numeral.IsRead ⟨false, digits.take cut, digits.drop cut, none⟩
      (digits.take cut ++ '.' :: digits.drop cut) := by
  have whole : ∀ c ∈ digits.take cut, c.isDigit = true := fun c hc => run c (List.mem_of_mem_take hc)
  have wholeLength : (digits.take cut).length = cut := List.length_take_of_le back.le
  have fraction : digits.drop cut ≠ [] := by
    rw [← List.length_pos_iff, List.length_drop]
    omega
  refine ⟨rfl, ?_, fun empty => absurd empty fraction, ?_⟩
  · have writes := @WritesNumeral.mk false (digits.take cut) _ _ _ none ⟨?_, whole⟩ ?_
      (.some ⟨fraction, fun c hc => run c (List.mem_of_mem_drop hc)⟩) .none
    · rwa [List.append_nil] at writes
    · rw [← List.length_pos_iff, wholeLength]
      exact front
    · intro zero
      rw [List.head?_take, if_neg (by omega)] at zero
      obtain rfl : cut = 1 := by_contra fun other => leading other zero
      obtain ⟨more, rfl⟩ := List.head?_eq_some_iff.mp zero
      rfl
  · refine isSome_magnitude_of_plain whole ?_ rfl
    show (digits.take cut).length ≤ 16
    omega

/-- A decimal with a fraction has its digits before the point, or a zero if there are none. -/
theorem isRead_positional_of_neg (low : s.lead < 16) (below : s.exponent < 0) :
    ∃ n : Numeral, n.IsRead (positional ['.', '0'] s) := by
  obtain ⟨places, same⟩ : ∃ places : Nat, s.exponent = -(places + 1 : Nat) :=
    ⟨(-s.exponent).toNat - 1, by omega⟩
  have few : (digitCount s.digits : Int) ≤ places + 17 := by
    rw [Scaled.lead] at low
    omega
  have digits := isDigits_toDigits s.digits
  have count : (digitChars s.digits).length = digitCount s.digits := rfl
  have zeros : positional ['.', '0'] s = _ := if_neg (Int.not_le.mpr below)
  simp only [same, neg_neg, Int.toNat_natCast, count] at zeros
  rw [zeros]
  refine ⟨_, isRead_fraction ?_ ?_ ?_ ?_ ?_⟩
  · refine List.forall_mem_append.mpr ⟨fun c hc => ?_, digits.digits⟩
    rw [List.eq_of_mem_replicate hc]
    rfl
  all_goals simp only [List.length_append, List.length_replicate, count]
  · omega
  · omega
  · omega
  · intro more zero
    have none : places + 1 + 1 - digitCount s.digits = 0 := by omega
    rw [none, List.replicate_zero, List.nil_append] at zero
    have single := congrArg List.length (toDigits_of_head?_zero _ zero)
    change digitCount s.digits = 1 at single
    omega

theorem isRead_positional (low : s.lead < 16) (shape : s.digits ≠ 0 ∨ s.exponent = 0) :
    ∃ n : Numeral, n.IsRead (positional ['.', '0'] s) := by
  rcases Int.lt_or_le s.exponent 0 with below | whole
  · exact isRead_positional_of_neg low below
  · rw [positional_of_nonneg shape whole]
    obtain ⟨zeros, same⟩ := Int.eq_ofNat_of_zero_le whole
    have total : digitCount s.digits + zeros ≤ 16 := by
      rw [Scaled.lead] at low
      omega
    have digits : s.digits < 10 ^ digitCount s.digits :=
      (Nat.length_toDigits_le_iff (by decide) Nat.length_toDigits_pos).mp le_rfl
    refine ⟨_, isRead_wholeNumeral ?_⟩
    rw [same, Int.toNat_natCast]
    calc s.digits * 10 ^ zeros < 10 ^ digitCount s.digits * 10 ^ zeros :=
          Nat.mul_lt_mul_of_pos_right digits (by positivity)
      _ = 10 ^ (digitCount s.digits + zeros) := by rw [Nat.pow_add]
      _ ≤ 10 ^ 16 := Nat.pow_le_pow_right (by decide) total

/-- A decimal in units of its last digit, if its exponent is not negative. -/
theorem scaled_le_of_value_le {bound : Nat} (within : s.value ≤ bound) {places : Nat} (lead : s.lead = places) :
    s.digits * 10 ^ places ≤ bound * 10 ^ (digitCount s.digits - 1) := by
  have count : 1 ≤ digitCount s.digits := Nat.length_toDigits_pos
  have exponent : (places : Int) = s.exponent + (digitCount s.digits - 1 : Nat) := by
    rw [← lead, Scaled.lead]
    omega
  have scaled : s.value * 10 ^ (digitCount s.digits - 1) = ((s.digits * 10 ^ places : Nat) : ℚ) := by
    push_cast
    rw [Scaled.value, mul_assoc, ← zpow_natCast, ← zpow_natCast, exponent, zpow_add₀ (by norm_num)]
  have product :=
    mul_le_mul_of_nonneg_right within (show (0 : ℚ) ≤ 10 ^ (digitCount s.digits - 1) by positivity)
  rw [scaled] at product
  exact_mod_cast product

theorem lead_le_exponentLimit (positive : 0 < s.digits) (within : s.value ≤ readableBound) {places : Nat}
    (lead : s.lead = places) : places ≤ exponentLimit := by
  have power : 10 ^ places ≤ readableBound := by
    refine Nat.le_of_mul_le_mul_left ?_ positive
    calc s.digits * 10 ^ places ≤ readableBound * 10 ^ (digitCount s.digits - 1) :=
          scaled_le_of_value_le within lead
      _ ≤ readableBound * s.digits := Nat.mul_le_mul_left _ (ten_pow_le_of_digits positive)
      _ = s.digits * readableBound := Nat.mul_comm _ _
  have beyond : readableBound < 10 ^ 155 * 10 ^ 154 := by decide +kernel
  rw [← Nat.pow_add] at beyond
  have few := (Nat.pow_lt_pow_iff_right (by decide)).mp (power.trans_lt beyond)
  exact few.le.trans (by decide)

/-- The numeral of the scientific notation: one digit, the others as a fraction, and an exponent. -/
def scientificNumeral (s : Scaled) : Numeral :=
  ⟨false, (digitChars s.digits).take 1, (digitChars s.digits).drop 1,
    some (decide (s.lead < 0), digitChars s.lead.natAbs)⟩

theorem length_whole_scientific (s : Scaled) : (scientificNumeral s).whole.length = 1 :=
  List.length_take_of_le Nat.length_toDigits_pos

theorem writes_scientific (s : Scaled) : WritesNumeral (scientificNumeral s) (scientific s) := by
  have run := (isDigits_toDigits s.digits).digits
  have whole := length_whole_scientific s
  have lead : s.exponent + ((digitChars s.digits).length - 1 : Nat) = s.lead := by
    have count : 1 ≤ (digitChars s.digits).length := Nat.length_toDigits_pos
    rw [Scaled.lead, digitCount, ← digitChars]
    omega
  rw [scientific, lead, List.append_assoc]
  refine @WritesNumeral.mk false _ _ _ _ _ ⟨?_, fun c hc => run c (List.mem_of_mem_take hc)⟩ ?_ ?_ ?_
  · rw [← List.length_pos_iff]
    exact whole.symm ▸ Nat.one_pos
  · intro zero
    obtain ⟨more, shape⟩ := List.head?_eq_some_iff.mp zero
    rw [scientificNumeral, shape, List.length_cons] at whole
    rw [shape, List.length_eq_zero_iff.mp (Nat.succ.inj whole)]
  · split
    · rename_i none
      rw [none]
      exact .none
    · rename_i some
      exact .some ⟨some, fun c hc => run c (List.mem_of_mem_drop hc)⟩
  · have exponent (minus : Bool) (sign : Char) (signed : WritesSign minus [sign]) :
        WritesExponent (some (minus, digitChars s.lead.natAbs)) ('e' :: sign :: digitChars s.lead.natAbs) :=
      .some (Or.inl rfl) signed (isDigits_toDigits _)
    by_cases negative : s.lead < 0
    · rw [decide_eq_true negative, if_pos negative]
      exact exponent true '-' .minus
    · rw [decide_eq_false negative, if_neg negative]
      exact exponent false '+' .plus

theorem isRead_scientific (positive : 0 < s.digits) (within : s.value ≤ readableBound) :
    (scientificNumeral s).IsRead (scientific s) := by
  have run := (isDigits_toDigits s.digits).digits
  have short : (scientificNumeral s).whole.length ≤ 16 := (length_whole_scientific s).trans_le (by decide)
  refine ⟨rfl, writes_scientific s, fun _ => Option.some_ne_none _, ?_⟩
  refine isSome_magnitude_of_scaled (fun c hc => run c (List.mem_of_mem_take hc)) short rfl ?_
  intro plus
  have same : s.lead = s.lead.natAbs := by
    have := of_decide_eq_false plus
    omega
  have value (n : Nat) : digitsValue (digitChars n) = n := Nat.ofDigitChars_ten_toDigits
  have fraction : (scientificNumeral s).fraction.length = digitCount s.digits - 1 := List.length_drop
  have digits : Nat.ofDigitChars 10 ((scientificNumeral s).whole ++ (scientificNumeral s).fraction) 0
      = s.digits := by
    rw [scientificNumeral, List.take_append_drop]
    exact Nat.ofDigitChars_ten_toDigits
  rw [value, digits, fraction]
  exact ⟨lead_le_exponentLimit positive within same, scaled_le_of_value_le within same⟩

theorem isRead_scaledChars (shape : s.digits ≠ 0 ∨ s.exponent = 0) (within : s.value ≤ readableBound) :
    ∃ n : Numeral, n.IsRead (scaledChars s) := by
  rw [scaledChars]
  split
  · rename_i near
    exact isRead_positional near.2 shape
  · rename_i far
    refine ⟨_, isRead_scientific (Nat.pos_of_ne_zero fun none => far ?_) within⟩
    have count : digitCount s.digits = 1 := congrArg digitCount none
    rw [Scaled.lead, shape.resolve_left (not_not.mpr none), count]
    decide

end Scaleds

/-! ## Finite numbers -/

/-- A decimal that rounds to a double other than the largest is within the bound. -/
theorem high_le_readableBound {p : Parts} (h : p.IsDouble)
    (other : ¬ (p.mantissa = 2 ^ 53 - 1 ∧ p.exponent = 971)) :
    ((interval p).high : ℚ) * 2 ^ (p.exponent - 2) ≤ readableBound := by
  have fits := h.fits
  have most := h.most
  have bound : (readableBound : ℚ) = ((2 ^ 54 - 3) * 2 ^ 2 : ℕ) * 2 ^ (968 : ℤ) := by
    rw [readableBound, show (970 : ℕ) = 2 + 968 by rfl, pow_add, ← mul_assoc, Nat.cast_mul, Nat.cast_pow 2 968,
      ← zpow_natCast]
    rfl
  have high : (interval p).high = 4 * p.mantissa + 2 := rfl
  rw [bound, high]
  rcases Int.lt_or_le p.exponent 971 with lower | top
  · have steps : 4 * p.mantissa + 2 ≤ (2 ^ 54 - 3) * 2 ^ 2 := by omega
    have power : (2 : ℚ) ^ (p.exponent - 2) ≤ 2 ^ (968 : ℤ) := zpow_le_zpow_right₀ (by norm_num) (by omega)
    exact mul_le_mul (Nat.cast_le.mpr steps) power (by positivity) (Nat.cast_nonneg _)
  · have exponent : p.exponent - 2 = 1 + 968 := by omega
    have steps : (4 * p.mantissa + 2) * 2 ≤ (2 ^ 54 - 3) * 2 ^ 2 := by omega
    have scaled : ((4 * p.mantissa + 2 : ℕ) : ℚ) * 2 ≤ ((2 ^ 54 - 3) * 2 ^ 2 : ℕ) := by exact_mod_cast steps
    rw [exponent, zpow_add₀ (by norm_num), zpow_one, ← mul_assoc]
    exact mul_le_mul_of_nonneg_right scaled (by positivity)

/-- The text of the largest double is beyond the bound, and still read. -/
theorem isRead_largest (negative : Bool) :
    ∃ n : Numeral, n.IsRead (magnitudeChars ⟨negative, 2 ^ 53 - 1, 971⟩) := by
  have text : magnitudeChars ⟨false, 2 ^ 53 - 1, 971⟩ = "1.7976931348623157e+308".toList := by decide +kernel
  have same : magnitudeChars ⟨negative, 2 ^ 53 - 1, 971⟩ = magnitudeChars ⟨false, 2 ^ 53 - 1, 971⟩ := rfl
  rw [same, text]
  have one : IsDigits ['1'] := isDigits_toDigits 1
  have fraction : IsDigits "7976931348623157".toList := isDigits_toDigits 7976931348623157
  have exponent : IsDigits "308".toList := isDigits_toDigits 308
  have read : (Numeral.mk false ['1'] "7976931348623157".toList (some (false, "308".toList))).magnitude?.isSome
      = true := by decide +kernel
  exact ⟨_, rfl, .mk one (by decide) (.some fraction) (.some (Or.inl rfl) .plus exponent),
    fun _ => Option.some_ne_none _, read⟩

theorem isRead_magnitudeChars {p : Parts} (h : p.IsDouble) : ∃ n : Numeral, n.IsRead (magnitudeChars p) := by
  by_cases largest : p.mantissa = 2 ^ 53 - 1 ∧ p.exponent = 971
  · obtain ⟨negative, mantissa, exponent⟩ := p
    obtain ⟨rfl, rfl⟩ := largest
    exact isRead_largest negative
  rw [magnitudeChars]
  split
  · exact ⟨wholeNumeral 0, isRead_wholeNumeral (by decide)⟩
  rename_i nonzero
  rcases shortest_spec .even p with none | bounds
  · rw [none]
    refine isRead_scaledChars (Or.inr rfl) ?_
    rw [Scaled.value, Nat.cast_zero, zero_mul]
    exact Nat.cast_nonneg _
  · refine isRead_scaledChars (Or.inl fun none => ?_) (bounds.2.trans (high_le_readableBound h largest))
    have low : 0 < (interval p).low := by
      simp only [interval]
      split <;> omega
    have positive : (0 : ℚ) < (interval p).low * 2 ^ (p.exponent - 2) :=
      mul_pos (Nat.cast_pos.mpr low) (by positivity)
    rw [Scaled.value, none, Nat.cast_zero, zero_mul] at bounds
    exact absurd bounds.1 (not_le.mpr positive)

/-- The text of a finite number is the text of a numeral that has a value. -/
theorem exists_numeral_documentText {x : Float} (finite : x.isFinite = true) :
    ∃ (n : Numeral) (y : Float), WritesNumeral n (documentText x).toList ∧ n.value? = some (.real y) := by
  obtain ⟨n, isRead⟩ := isRead_magnitudeChars (isDouble_parts finite)
  obtain ⟨y, magnitude⟩ := Option.isSome_iff_exists.mp isRead.read
  have value := @value_of_real (n.signed (parts x).negative) isRead.real
  have same : (n.signed (parts x).negative).magnitude? = n.magnitude? := rfl
  rw [same, magnitude] at value
  refine ⟨n.signed (parts x).negative, _, ?_, value⟩
  rw [documentText_of_isFinite finite]
  exact writes_signed isRead.writes isRead.unsigned _

/-! ## Whole numbers -/

section Whole

variable {n : Nat} (positive : 0 < n) (bounded : n < 2 ^ 53)

include positive bounded

/-- The text of a whole number has a fraction of zero. -/
theorem magnitudeChars_natParts : magnitudeChars (natParts n) = Nat.toDigits 10 n ++ ['.', '0'] := by
  obtain ⟨value, whole⟩ := shortest_whole positive bounded .even
  have nonzero : (natParts n).mantissa ≠ 0 := by
    have := two_pow_le_natParts positive
    omega
  rw [magnitudeChars, if_neg nonzero]
  generalize shortest .even (natParts n) = s at value whole
  obtain ⟨zeros, same⟩ := Int.eq_ofNat_of_zero_le whole
  have product : s.digits * 10 ^ zeros = n := by
    rw [Scaled.value, same, zpow_natCast] at value
    exact_mod_cast value
  have some : 0 < s.digits := by
    refine Nat.pos_of_ne_zero fun none => ?_
    rw [none, Nat.zero_mul] at product
    omega
  have count : digitCount s.digits + zeros = digitCount n := by
    rw [← product, digitCount, digitCount, toDigits_mul_ten_pow some, List.length_append, List.length_replicate]
  have few := digitCount_le bounded
  have least : 1 ≤ digitCount s.digits := Nat.length_toDigits_pos
  have near : -5 ≤ s.lead ∧ s.lead < 16 := by
    rw [Scaled.lead]
    omega
  rw [scaledChars, if_pos near, positional_of_nonneg (Or.inl some.ne') whole, same, Int.toNat_natCast, product]

/-- A whole number with a fraction of zero is read as a tenth of ten times the number. -/
theorem magnitude_wholeNumeral :
    (wholeNumeral n).magnitude? = some ((10 * n).toUInt64.toFloat / powerOfTen 1) := by
  have digits : Nat.ofDigitChars 10 (Nat.toDigits 10 n) 0 = n := Nat.ofDigitChars_ten_toDigits
  have fits : Nat.ofDigitChars 10 (Nat.toDigits 10 n) 0 < wordLimit := by
    rw [digits]
    exact bounded.trans (by decide)
  have whole : gather 0 (wholeNumeral n).whole = (n, []) := (gather_of_lt fits).trans (by rw [digits])
  have tenth : gather n (wholeNumeral n).fraction = (10 * n, []) := by
    have next : 10 * n + digitValue '0' < wordLimit := by
      have zero : digitValue '0' = 0 := rfl
      have limit : 10 * 2 ^ 53 < wordLimit := by decide
      omega
    exact if_pos next
  rw [magnitude_of_none rfl, Numeral.significand, Numeral.shift, whole, tenth]
  rfl

end Whole

end Viewsmith.Json
