import Mathlib.Data.List.Basic
import Mathlib.Data.List.TakeWhile
import Viewsmith.Decimal.Parse
import Viewsmith.Proofs.Json.Grammar

/-!
# Reading numerals of documents

A numeral is read from exactly the texts that the grammar has for it, as long as what comes after does
not go on like a numeral (`scanNumeral_of_writes`, `writes_of_scanNumeral`). So it holds only digits,
signs, a point and the letter of an exponent, and begins with a digit or a minus sign.
-/

namespace Viewsmith.Json

open Decimal

/-! ## Characters -/

/-- Whether a numeral that stands before a character could go on with it. -/
def continuesNumeral (c : Char) : Bool := c.isDigit || c = '.' || c = 'e' || c = 'E'

def isNumeralChar (c : Char) : Bool := continuesNumeral c || c = '-' || c = '+'

def startsNumeral (c : Char) : Bool := c = '-' || c.isDigit

/-- Whether a text that follows a numeral does not go on like one. -/
def EndsNumeral (rest : List Char) : Prop := ∀ c ∈ rest.head?, continuesNumeral c = false

theorem EndsNumeral.of_head {c : Char} (other : continuesNumeral c = false) (rest : List Char) :
    EndsNumeral (c :: rest) := by
  rintro d same
  rw [List.head?_cons, Option.mem_some_iff] at same
  exact same ▸ other

theorem forall_head?_append {p : Char → Prop} {text rest : List Char} (first : ∀ c ∈ text.head?, p c)
    (second : ∀ c ∈ rest.head?, p c) : ∀ c ∈ (text ++ rest).head?, p c := by
  cases text with
  | nil => exact second
  | cons d more => exact first

section Ends

variable {rest : List Char}

theorem EndsNumeral.no_digit (ends : EndsNumeral rest) : ∀ c ∈ rest.head?, c.isDigit = false := by
  intro c first
  have other := ends c first
  simp only [continuesNumeral, Bool.or_eq_false_iff] at other
  exact other.1.1.1

theorem EndsNumeral.pointless (ends : EndsNumeral rest) : ∀ c ∈ rest.head?, c ≠ '.' := by
  rintro c first rfl
  cases ends _ first

theorem EndsNumeral.unmarked (ends : EndsNumeral rest) :
    ∀ c ∈ rest.head?, ¬ (c = 'e' ∨ c = 'E') := by
  rintro c first (rfl | rfl)
  · cases ends _ first
  · cases ends _ first

end Ends

/-- A character with a property is not among characters without it. -/
theorem notMem_of_all_not {p : Char → Bool} {chars : List Char} {c : Char}
    (others : (chars.all fun d => !p d) = true) (h : p c = true) : c ∉ chars := by
  intro inside
  have other := List.all_eq_true.mp others c inside
  rw [h] at other
  cases other

theorem isNumeralChar_of_isDigit {c : Char} (digit : c.isDigit = true) : isNumeralChar c = true := by
  simp [isNumeralChar, continuesNumeral, digit]

/-! ## Runs of digits -/

/-- A run of digits, which is not empty, and what comes after it. -/
def digitRun? (text : List Char) : Option (List Char × List Char) :=
  match text with
  | [] => none
  | c :: _ =>
      if c.isDigit then some (text.takeWhile Char.isDigit, text.dropWhile Char.isDigit) else none

theorem digitRun?_of_isDigits {digits rest : List Char} (h : IsDigits digits)
    (ends : ∀ c ∈ rest.head?, c.isDigit = false) :
    digitRun? (digits ++ rest) = some (digits, rest) := by
  obtain ⟨c, more, rfl⟩ := List.exists_cons_of_ne_nil h.nonempty
  have take : (c :: more ++ rest).takeWhile Char.isDigit = c :: more := by
    rw [List.takeWhile_append_of_pos h.digits]
    cases rest with
    | nil => simp
    | cons d rest => simp [ends d rfl]
  have drop : (c :: more ++ rest).dropWhile Char.isDigit = rest := by
    rw [List.dropWhile_append_of_pos h.digits]
    cases rest with
    | nil => rfl
    | cons d rest => rw [List.dropWhile_cons_of_neg (by simp [ends d rfl])]
  rw [List.cons_append, digitRun?, if_pos (h.digits c List.mem_cons_self), ← List.cons_append, take,
    drop]

theorem isDigits_of_digitRun? {text digits rest : List Char}
    (read : digitRun? text = some (digits, rest)) : IsDigits digits ∧ text = digits ++ rest := by
  cases text with
  | nil => cases read
  | cons c more =>
      rw [digitRun?] at read
      split at read
      case isFalse => cases read
      case isTrue digit =>
        rw [Option.some.injEq, Prod.mk.injEq] at read
        obtain ⟨rfl, rfl⟩ := read
        refine ⟨⟨?_, fun d hd => List.mem_takeWhile_imp hd⟩, List.takeWhile_append_dropWhile.symm⟩
        rw [List.takeWhile_cons_of_pos digit]
        simp

/-! ## Steps of the reader -/

section Parts

variable {negative : Bool} {whole fraction text after : List Char} {n : Numeral}

theorem scanExponent_eq_read {e : Char} (mark : e = 'e' ∨ e = 'E') :
    scanExponent negative whole fraction (e :: text) = .read n after ↔
      ∃ digits, digitRun? (splitSign text).2 = some (digits, after) ∧
        n = ⟨negative, whole, fraction, some ((splitSign text).1, digits)⟩ := by
  simp only [scanExponent, if_pos mark]
  split <;> grind [digitRun?, splitSign]

theorem scanExponent_none (other : ∀ e ∈ text.head?, ¬ (e = 'e' ∨ e = 'E')) :
    scanExponent negative whole fraction text = .read ⟨negative, whole, fraction, none⟩ text := by
  cases text with
  | nil => rfl
  | cons e rest => simp only [scanExponent, if_neg (other e rfl)]

theorem scanFraction_point :
    scanFraction negative whole ('.' :: text) = .read n after ↔
      ∃ digits rest, digitRun? text = some (digits, rest) ∧
        scanExponent negative whole digits rest = .read n after := by
  cases text with
  | nil => simp [scanFraction, digitRun?]
  | cons d rest =>
      by_cases digit : d.isDigit = true
      · simp [scanFraction, digitRun?, digit]
      · simp [scanFraction, digitRun?, digit]

theorem scanFraction_none (other : ∀ c ∈ text.head?, c ≠ '.') :
    scanFraction negative whole text = scanExponent negative whole [] text := by
  cases text with
  | nil => rfl
  | cons c rest => simp [scanFraction, other c rfl]

theorem scanDigits_zero (ends : ∀ d ∈ text.head?, d.isDigit = false) :
    scanDigits negative ('0' :: text) = scanFraction negative ['0'] text := by
  cases text with
  | nil => rfl
  | cons d rest => simp [scanDigits, ends d rfl]

theorem scanDigits_eq_read {d : Char} (nonzero : d ≠ '0') :
    scanDigits negative (d :: text) = .read n after ↔
      ∃ digits rest, digitRun? (d :: text) = some (digits, rest) ∧
        scanFraction negative digits rest = .read n after := by
  by_cases digit : d.isDigit = true
  · simp [scanDigits, digitRun?, digit]
  · simp [scanDigits, digitRun?, digit]

end Parts

/-! ## Numerals as written -/

section Numerals

variable {negative : Bool} {whole fraction text rest : List Char} {n : Numeral}

theorem splitSign_of_writes {minus : Bool} {sign digits : List Char}
    (signed : WritesSign minus sign) (run : IsDigits digits) (rest : List Char) :
    splitSign (sign ++ (digits ++ rest)) = (minus, digits ++ rest) := by
  obtain ⟨c, more, rfl⟩ := List.exists_cons_of_ne_nil run.nonempty
  have digit := run.digits c List.mem_cons_self
  cases signed with
  | plus => rfl
  | minus => rfl
  | none =>
      have plus : c ≠ '+' := by
        rintro rfl
        cases digit
      have minus : c ≠ '-' := by
        rintro rfl
        cases digit
      simp [splitSign, plus, minus]

theorem scanExponent_of_writes {exponent : Option (Bool × List Char)} {letter : List Char}
    (h : WritesExponent exponent letter) (ends : EndsNumeral rest) :
    scanExponent negative whole fraction (letter ++ rest)
      = .read ⟨negative, whole, fraction, exponent⟩ rest := by
  cases h with
  | none => exact scanExponent_none ends.unmarked
  | some mark signed run =>
      rw [List.cons_append, List.append_assoc, scanExponent_eq_read mark,
        splitSign_of_writes signed run]
      exact ⟨_, digitRun?_of_isDigits run ends.no_digit, rfl⟩

theorem writes_of_scanExponent (read : scanExponent negative whole fraction text = .read n rest) :
    ∃ exponent letter, n = ⟨negative, whole, fraction, exponent⟩ ∧ text = letter ++ rest ∧
      WritesExponent exponent letter := by
  by_cases marked : ∃ e ∈ text.head?, e = 'e' ∨ e = 'E'
  · obtain ⟨e, first, mark⟩ := marked
    obtain ⟨more, rfl⟩ : ∃ more, text = e :: more := List.head?_eq_some_iff.mp first
    obtain ⟨digits, run, rfl⟩ := (scanExponent_eq_read mark).mp read
    obtain ⟨isRun, shape⟩ := isDigits_of_digitRun? run
    have signed : ∃ sign, more = sign ++ (splitSign more).2 ∧
        WritesSign (splitSign more).1 sign := by
      unfold splitSign
      split
      · exact ⟨['+'], rfl, .plus⟩
      · exact ⟨['-'], rfl, .minus⟩
      · exact ⟨[], rfl, .none⟩
    obtain ⟨sign, split, signed⟩ := signed
    refine ⟨_, e :: (sign ++ digits), rfl, ?_, .some mark signed isRun⟩
    rw [shape] at split
    rw [split]
    simp
  · have unmarked : ∀ e ∈ text.head?, ¬ (e = 'e' ∨ e = 'E') :=
      fun e first same => marked ⟨e, first, same⟩
    rw [scanExponent_none unmarked, NumeralScan.read.injEq] at read
    obtain ⟨rfl, rfl⟩ := read
    exact ⟨none, [], rfl, rfl, .none⟩

/-- An exponent, or what comes after a numeral, does not go on like digits or a fraction. -/
theorem head_of_writesExponent {exponent : Option (Bool × List Char)} {letter : List Char}
    (h : WritesExponent exponent letter) (ends : EndsNumeral rest) :
    ∀ c ∈ (letter ++ rest).head?, c.isDigit = false ∧ c ≠ '.' := by
  intro c first
  cases h with
  | none => exact ⟨ends.no_digit c first, ends.pointless c first⟩
  | some mark signed run =>
      cases first
      rcases mark with rfl | rfl <;> decide

theorem scanFraction_of_writes {exponent : Option (Bool × List Char)} {point letter : List Char}
    (fractional : WritesFraction fraction point) (scaled : WritesExponent exponent letter)
    (ends : EndsNumeral rest) :
    scanFraction negative whole (point ++ (letter ++ rest))
      = .read ⟨negative, whole, fraction, exponent⟩ rest := by
  have apart := head_of_writesExponent scaled ends
  cases fractional with
  | none =>
      rw [List.nil_append, scanFraction_none fun c first => (apart c first).2]
      exact scanExponent_of_writes scaled ends
  | some run =>
      rw [List.cons_append, scanFraction_point]
      exact ⟨_, _, digitRun?_of_isDigits run fun c first => (apart c first).1,
        scanExponent_of_writes scaled ends⟩

theorem writes_of_scanFraction (read : scanFraction negative whole text = .read n rest) :
    ∃ fraction exponent point letter, n = ⟨negative, whole, fraction, exponent⟩ ∧
      text = point ++ (letter ++ rest) ∧ WritesFraction fraction point ∧
      WritesExponent exponent letter := by
  by_cases point : text.head? = some '.'
  · obtain ⟨more, rfl⟩ := List.head?_eq_some_iff.mp point
    obtain ⟨digits, between, run, later⟩ := scanFraction_point.mp read
    obtain ⟨isRun, rfl⟩ := isDigits_of_digitRun? run
    obtain ⟨exponent, letter, rfl, rfl, scaled⟩ := writes_of_scanExponent later
    exact ⟨digits, exponent, _, letter, rfl, rfl, .some isRun, scaled⟩
  · have pointless : ∀ c ∈ text.head?, c ≠ '.' := by
      rintro c first rfl
      exact point first
    rw [scanFraction_none pointless] at read
    obtain ⟨exponent, letter, rfl, rfl, scaled⟩ := writes_of_scanExponent read
    exact ⟨[], exponent, [], letter, rfl, rfl, .none, scaled⟩

theorem scanDigits_of_writes {exponent : Option (Bool × List Char)} {point letter : List Char}
    (run : IsDigits whole) (leading : whole.head? = some '0' → whole = ['0'])
    (fractional : WritesFraction fraction point) (scaled : WritesExponent exponent letter)
    (ends : EndsNumeral rest) :
    scanDigits negative (whole ++ (point ++ (letter ++ rest)))
      = .read ⟨negative, whole, fraction, exponent⟩ rest := by
  have apart : ∀ c ∈ (point ++ (letter ++ rest)).head?, c.isDigit = false := by
    intro c first
    cases fractional with
    | none => exact (head_of_writesExponent scaled ends c first).1
    | some _ =>
        cases first
        decide
  obtain ⟨d, more, rfl⟩ := List.exists_cons_of_ne_nil run.nonempty
  by_cases zero : d = '0'
  · subst zero
    rw [leading rfl, List.singleton_append, scanDigits_zero apart]
    exact scanFraction_of_writes fractional scaled ends
  · rw [List.cons_append, scanDigits_eq_read zero, ← List.cons_append]
    exact ⟨_, _, digitRun?_of_isDigits run apart, scanFraction_of_writes fractional scaled ends⟩

theorem writes_of_scanDigits (read : scanDigits negative text = .read n rest) :
    ∃ digits, text = digits ++ rest ∧
      WritesNumeral n ((if negative then ['-'] else []) ++ digits) := by
  cases text with
  | nil => cases read
  | cons d more =>
      by_cases zero : d = '0'
      · subst zero
        have single : ∀ c ∈ more.head?, c.isDigit = false := by
          intro c first
          obtain ⟨rest, rfl⟩ := List.head?_eq_some_iff.mp first
          rw [← Bool.not_eq_true]
          intro digit
          simp [scanDigits, digit] at read
        rw [scanDigits_zero single] at read
        obtain ⟨fraction, exponent, point, letter, rfl, rfl, fractional, scaled⟩ :=
          writes_of_scanFraction read
        exact ⟨['0'] ++ (point ++ letter), by simp,
          .mk ⟨by simp, List.forall_mem_singleton.mpr rfl⟩ (fun _ => rfl) fractional scaled⟩
      · obtain ⟨digits, between, run, read⟩ := (scanDigits_eq_read zero).mp read
        obtain ⟨isRun, shape⟩ := isDigits_of_digitRun? run
        obtain ⟨fraction, exponent, point, letter, rfl, rfl, fractional, scaled⟩ :=
          writes_of_scanFraction read
        refine ⟨digits ++ (point ++ letter), by simp [shape], .mk isRun ?_ fractional scaled⟩
        intro first
        obtain ⟨c, others, rfl⟩ := List.exists_cons_of_ne_nil isRun.nonempty
        rw [List.cons_append, List.cons.injEq] at shape
        rw [List.head?_cons, ← shape.1] at first
        exact absurd (Option.some.inj first) zero

end Numerals

theorem scanNumeral_unsigned {d : Char} (unsigned : d ≠ '-') (text : List Char) :
    scanNumeral (d :: text) = scanDigits false (d :: text) := by
  simp [scanNumeral, unsigned]

/-- The text of a numeral is read as that numeral. -/
theorem scanNumeral_of_writes {n : Numeral} {text rest : List Char} (h : WritesNumeral n text)
    (ends : EndsNumeral rest) : scanNumeral (text ++ rest) = .read n rest := by
  cases h with
  | @mk negative whole _ _ _ _ run leading fractional scaled =>
      rw [List.append_assoc, List.append_assoc, List.append_assoc]
      cases negative with
      | true => exact scanDigits_of_writes run leading fractional scaled ends
      | false =>
          obtain ⟨d, more, rfl⟩ := List.exists_cons_of_ne_nil run.nonempty
          have unsigned : d ≠ '-' := by
            rintro rfl
            cases run.digits _ List.mem_cons_self
          exact (scanNumeral_unsigned unsigned _).trans
            (scanDigits_of_writes run leading fractional scaled ends)

/-- What is read as a numeral is the text of that numeral. -/
theorem writes_of_scanNumeral {n : Numeral} {text rest : List Char}
    (read : scanNumeral text = .read n rest) :
    ∃ numeral, text = numeral ++ rest ∧ WritesNumeral n numeral := by
  cases text with
  | nil => cases read
  | cons d more =>
      by_cases minus : d = '-'
      · subst minus
        obtain ⟨digits, rfl, writes⟩ := writes_of_scanDigits read
        exact ⟨'-' :: digits, rfl, writes⟩
      · rw [scanNumeral_unsigned minus] at read
        obtain ⟨digits, shape, writes⟩ := writes_of_scanDigits read
        exact ⟨digits, shape, writes⟩

/-! ## Characters of numerals -/

theorem isNumeralChar_of_isDigits {digits : List Char} (run : IsDigits digits) :
    ∀ c ∈ digits, isNumeralChar c = true :=
  fun c hc => isNumeralChar_of_isDigit (run.digits c hc)

theorem isNumeralChar_of_writesFraction {fraction point : List Char}
    (h : WritesFraction fraction point) : ∀ c ∈ point, isNumeralChar c = true := by
  cases h with
  | none => exact List.forall_mem_nil _
  | some run => exact List.forall_mem_cons.mpr ⟨by decide, isNumeralChar_of_isDigits run⟩

theorem isNumeralChar_of_writesExponent {exponent : Option (Bool × List Char)} {letter : List Char}
    (h : WritesExponent exponent letter) : ∀ c ∈ letter, isNumeralChar c = true := by
  cases h with
  | none => exact List.forall_mem_nil _
  | some mark signed run =>
      refine List.forall_mem_cons.mpr
        ⟨?_, List.forall_mem_append.mpr ⟨?_, isNumeralChar_of_isDigits run⟩⟩
      · rcases mark with rfl | rfl <;> decide
      · cases signed with
        | none => exact List.forall_mem_nil _
        | plus => exact List.forall_mem_singleton.mpr (by decide)
        | minus => exact List.forall_mem_singleton.mpr (by decide)

section Characters

variable {n : Numeral} {text : List Char}

theorem isNumeralChar_of_writesNumeral (h : WritesNumeral n text) :
    ∀ c ∈ text, isNumeralChar c = true := by
  cases h with
  | @mk negative _ _ _ _ _ run _ fractional scaled =>
      have sign : ∀ c ∈ (if negative then ['-'] else []), isNumeralChar c = true := by
        cases negative with
        | true => exact List.forall_mem_singleton.mpr (by decide)
        | false => exact List.forall_mem_nil _
      exact List.forall_mem_append.mpr ⟨sign, List.forall_mem_append.mpr
        ⟨isNumeralChar_of_isDigits run, List.forall_mem_append.mpr
          ⟨isNumeralChar_of_writesFraction fractional, isNumeralChar_of_writesExponent scaled⟩⟩⟩

/-- A numeral begins with a digit or a minus sign. -/
theorem head_of_writesNumeral (h : WritesNumeral n text) :
    ∃ c more, text = c :: more ∧ startsNumeral c = true := by
  cases h with
  | @mk negative _ _ _ _ _ run _ _ _ =>
      cases negative with
      | true => exact ⟨'-', _, rfl, by decide⟩
      | false =>
          obtain ⟨d, more, rfl⟩ := List.exists_cons_of_ne_nil run.nonempty
          refine ⟨d, _, rfl, ?_⟩
          rw [startsNumeral, run.digits d List.mem_cons_self, Bool.or_true]

end Characters

/-! ## Natural numbers -/

theorem isDigits_toDigits (n : Nat) : IsDigits (Nat.toDigits 10 n) :=
  ⟨Nat.toDigits_ne_nil, fun _ hc => Nat.isDigit_of_mem_toDigits (by decide) (by decide) hc⟩

/-- The digits of a number of 64 bits are all gathered. -/
theorem gather_of_lt {digits : List Char} {significand : Nat}
    (fits : Nat.ofDigitChars 10 digits significand < wordLimit) :
    gather significand digits = (Nat.ofDigitChars 10 digits significand, []) := by
  induction digits generalizing significand with
  | nil => rfl
  | cons c rest ih =>
      rw [Nat.ofDigitChars_cons] at fits ⊢
      have next : 10 * significand + Decimal.digitValue c < wordLimit := by
        refine lt_of_le_of_lt ?_ fits
        rw [Nat.ofDigitChars_eq_ofDigitChars_zero]
        exact Nat.le_add_right_of_le (Nat.le_mul_of_pos_left _ (Nat.pow_pos (by decide)))
      rw [gather, if_pos next]
      exact ih fits

/-- Only the number zero is written with the digit zero in front. -/
theorem toDigits_of_head?_zero (n : Nat) (zero : (Nat.toDigits 10 n).head? = some '0') :
    Nat.toDigits 10 n = ['0'] := by
  induction n using Nat.strongRecOn with
  | ind n ih =>
      rw [Nat.toDigits_eq_if (by decide)] at zero ⊢
      split_ifs at zero ⊢ with small
      · rw [Option.some.inj zero]
      · rw [List.head?_append_of_ne_nil _ Nat.toDigits_ne_nil] at zero
        have none := congrArg (fun digits => Nat.ofDigitChars 10 digits 0) (ih (n / 10) (by omega) zero)
        rw [Nat.ofDigitChars_ten_toDigits] at none
        have : n / 10 = 0 := none
        omega

end Viewsmith.Json
