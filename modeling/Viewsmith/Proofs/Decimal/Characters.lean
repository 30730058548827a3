import Mathlib.Data.List.Basic
import Mathlib.Data.List.TakeWhile
import Viewsmith.Decimal.Format

/-!
# The characters of a number text

A number in generated code is made of ASCII digits, a minus sign and a point, or it is one of the
words for numbers that are not finite. So its text ends before any other punctuation.
-/

namespace Viewsmith.Decimal

def IsNumberChar (c : Char) : Prop := c.isAlphanum = true ∨ c = '-' ∨ c = '.'

instance (c : Char) : Decidable (IsNumberChar c) :=
  inferInstanceAs (Decidable (_ ∨ _ ∨ _))

theorem isNumberChar_of_mem_digitChars {n : Nat} {c : Char} (h : c ∈ digitChars n) :
    IsNumberChar c := by
  have digit : c.isDigit = true := Nat.isDigit_of_mem_toDigits (by decide) (by decide) h
  exact Or.inl (by simp [Char.isAlphanum, digit])

theorem isNumberChar_of_mem_positional {s : Scaled} {c : Char} (h : c ∈ positional [] s) :
    IsNumberChar c := by
  have zeros : ∀ k, c ∈ List.replicate k '0' → IsNumberChar c := by
    intro k hc
    rw [List.eq_of_mem_replicate hc]
    decide
  simp only [positional] at h
  split at h
  · rw [List.append_nil, List.mem_append] at h
    rcases h with h | h
    · exact isNumberChar_of_mem_digitChars h
    · exact zeros _ h
  · have padded : ∀ k, c ∈ List.replicate k '0' ++ digitChars s.digits → IsNumberChar c := by
      intro k hc
      rcases List.mem_append.mp hc with hc | hc
      · exact zeros _ hc
      · exact isNumberChar_of_mem_digitChars hc
    rw [List.mem_append, List.mem_cons] at h
    rcases h with h | rfl | h
    · exact padded _ (List.mem_of_mem_take h)
    · decide
    · exact padded _ (List.mem_of_mem_drop h)

theorem isNumberChar_of_mem_plainChars {x : Float} {c : Char} (h : c ∈ plainChars x) :
    IsNumberChar c := by
  have magnitude : ∀ {p : Parts} {t : Tie},
      c ∈ (if p.mantissa = 0 then ['0'] else positional [] (shortest t p)) → IsNumberChar c := by
    intro p t hc
    split at hc
    · rw [List.mem_singleton.mp hc]
      decide
    · exact isNumberChar_of_mem_positional hc
  simp only [plainChars, signed] at h
  split at h
  · rcases List.mem_cons.mp h with rfl | h
    · decide
    · exact magnitude h
  · exact magnitude h

theorem isNumberChar_of_mem_codeText {x : Float} {c : Char} (h : c ∈ (codeText x).toList) :
    IsNumberChar c := by
  have words : (["NaN", "-Infinity", "Infinity"].all fun w => w.toList.all fun c => IsNumberChar c)
      = true := by decide
  simp only [List.all_eq_true, decide_eq_true_iff] at words
  rw [codeText] at h
  split at h
  · exact words "NaN" (by simp) c h
  · split at h
    · split at h
      · exact words "-Infinity" (by simp) c h
      · exact words "Infinity" (by simp) c h
    · rw [String.toList_ofList] at h
      exact isNumberChar_of_mem_plainChars h

/-! ## The text of a finite number -/

/-- Whether a text is a number without a sign: digits, and perhaps a point and more digits. -/
def isUnsignedText (text : List Char) : Bool :=
  !(text.takeWhile Char.isDigit).isEmpty &&
    match text.dropWhile Char.isDigit with
    | [] => true
    | c :: places => c = '.' && !places.isEmpty && places.all Char.isDigit

/-- Whether a text is a number in positional notation, perhaps with a minus sign. -/
def isNumberText (text : List Char) : Bool :=
  match text with
  | [] => false
  | c :: rest => if c = '-' then isUnsignedText rest else isUnsignedText text

theorem isUnsignedText_digits {digits : List Char} (nonempty : digits ≠ [])
    (run : ∀ c ∈ digits, c.isDigit = true) : isUnsignedText digits = true := by
  rw [isUnsignedText, List.takeWhile_eq_self_iff.mpr run, List.dropWhile_eq_nil_iff.mpr run,
    List.isEmpty_eq_false_iff.mpr nonempty]
  rfl

theorem isUnsignedText_fraction {whole places : List Char} (nonempty : whole ≠ [])
    (run : ∀ c ∈ whole, c.isDigit = true) (further : places ≠ [])
    (run' : ∀ c ∈ places, c.isDigit = true) : isUnsignedText (whole ++ '.' :: places) = true := by
  have point : ¬ Char.isDigit '.' = true := by decide
  rw [isUnsignedText, List.takeWhile_append_of_pos run, List.dropWhile_append_of_pos run,
    List.takeWhile_cons_of_neg point, List.dropWhile_cons_of_neg point, List.append_nil,
    List.isEmpty_eq_false_iff.mpr nonempty]
  simp only [decide_true, List.isEmpty_eq_false_iff.mpr further, List.all_eq_true.mpr run']
  rfl

theorem isUnsignedText_positional (s : Scaled) : isUnsignedText (positional [] s) = true := by
  have digits : ∀ c ∈ digitChars s.digits, c.isDigit = true :=
    fun c hc => Nat.isDigit_of_mem_toDigits (by decide) (by decide) hc
  have zeros : ∀ k, ∀ c ∈ List.replicate k '0', c.isDigit = true := by
    intro k c hc
    rw [List.eq_of_mem_replicate hc]
    decide
  simp only [positional]
  split
  · rw [List.append_nil]
    refine isUnsignedText_digits ?_ (List.forall_mem_append.mpr ⟨digits, zeros _⟩)
    exact List.append_ne_nil_of_left_ne_nil Nat.toDigits_ne_nil _
  · rename_i below
    have padded : ∀ k, ∀ c ∈ List.replicate k '0' ++ digitChars s.digits, c.isDigit = true :=
      fun k => List.forall_mem_append.mpr ⟨zeros k, digits⟩
    have length : (List.replicate ((-s.exponent).toNat + 1 - (digitChars s.digits).length) '0'
        ++ digitChars s.digits).length ≥ (-s.exponent).toNat + 1 := by
      rw [List.length_append, List.length_replicate]
      omega
    refine isUnsignedText_fraction ?_ (fun c hc => padded _ c (List.mem_of_mem_take hc)) ?_
      fun c hc => padded _ c (List.mem_of_mem_drop hc)
    · rw [← List.length_pos_iff, List.length_take]
      omega
    · rw [← List.length_pos_iff, List.length_drop]
      omega

/-- A number that is finite is neither of the special ones. -/
theorem not_special_of_isFinite {x : Float} (finite : x.isFinite = true) :
    x.isNaN = false ∧ x.isInf = false := by
  rw [Float.isFinite, Float.Model.isFinite] at finite
  rw [Float.isNaN, Float.Model.isNaN, Float.isInf, Float.Model.isInf]
  cases unpacked : x.toModel.unpack with
  | zero | finite => exact ⟨rfl, rfl⟩
  | notANumber | infinity =>
      rw [unpacked] at finite
      cases finite

theorem isNumberText_signed {text : List Char} (h : isUnsignedText text = true) (negative : Bool) :
    isNumberText (signed negative text) = true := by
  cases negative with
  | true => exact h
  | false =>
      cases text with
      | nil => cases h
      | cons c rest =>
          have unsigned : c ≠ '-' := by
            rintro rfl
            cases h
          exact (if_neg unsigned).trans h

theorem isNumberText_codeText {x : Float} (finite : x.isFinite = true) :
    isNumberText (codeText x).toList = true := by
  obtain ⟨number, bounded⟩ := not_special_of_isFinite finite
  rw [codeText, number, bounded, if_neg Bool.false_ne_true, if_neg Bool.false_ne_true,
    String.toList_ofList]
  refine isNumberText_signed ?_ _
  split
  · rfl
  · exact isUnsignedText_positional _

end Viewsmith.Decimal
