import Mathlib.Data.Bool.AllAny
import Mathlib.Data.List.Basic
import Viewsmith.Code.Buffer

/-!
# Reading string literals

A reader of string literals, as the language of generated code has them: a literal ends at the first
quote of its kind that is not escaped, an escape is a backslash and a letter or a code point in
hexadecimal, and a literal holds no line break. The reader undoes what writing a literal does, and
leaves whatever comes after it (`readLiteral_stringLiteral`). What a buffer appends when it quotes a
text is therefore read as that text, wherever the buffer stands (`readLiteral_quote`).
-/

namespace Viewsmith

/-! ## The reader -/

def literalEscapes : List (Char × Char) :=
  [('\\', '\\'), ('n', '\n'), ('r', '\r'), ('t', '\t'), ('\'', '\''), ('"', '"')]

def lineTerminators : List Char := ['\n', '\r', Char.ofNat 0x2028, Char.ofNat 0x2029]

def hexValue? (c : Char) : Option Nat :=
  if '0' ≤ c ∧ c ≤ '9' then some (c.toNat - '0'.toNat)
  else if 'a' ≤ c ∧ c ≤ 'f' then some (c.toNat - 'a'.toNat + 10)
  else if 'A' ≤ c ∧ c ≤ 'F' then some (c.toNat - 'A'.toNat + 10)
  else none

/-- Where a reader stands in a literal: between characters, after a backslash, or in a code point
of which digits are missing. -/
inductive LiteralPlace : Type where
  | between
  | escaped
  | codePoint (missing value : Nat)
deriving DecidableEq, Repr

/-- Reads a literal up to its closing quote: the characters that it stands for, and what comes
after the quote. -/
def readLiteralBody (quote : Char) : LiteralPlace → List Char → Option (List Char × List Char)
  | _, [] => none
  | .between, c :: rest =>
      if c = quote then some ([], rest)
      else if c = '\\' then readLiteralBody quote .escaped rest
      else if c ∈ lineTerminators then none
      else (readLiteralBody quote .between rest).map fun r => (c :: r.1, r.2)
  | .escaped, c :: rest =>
      if c = 'u' then readLiteralBody quote (.codePoint 4 0) rest
      else
        match literalEscapes.lookup c with
        | none => none
        | some meant => (readLiteralBody quote .between rest).map fun r => (meant :: r.1, r.2)
  | .codePoint missing value, c :: rest =>
      match hexValue? c with
      | none => none
      | some digit =>
          let value := value * 16 + digit
          if missing ≤ 1 then
            if value.isValidChar then
              (readLiteralBody quote .between rest).map fun r => (Char.ofNat value :: r.1, r.2)
            else none
          else readLiteralBody quote (.codePoint (missing - 1) value) rest

def readLiteral : List Char → Option (List Char × List Char)
  | [] => none
  | c :: rest => if c = '\'' ∨ c = '"' then readLiteralBody c .between rest else none

/-! ## Reading what was written -/

theorem readLiteralBody_backslash (q : QuoteStyle) (s : List Char) :
    readLiteralBody q.char .between ('\\' :: s) = readLiteralBody q.char .escaped s := by
  have other : '\\' ≠ q.char := by cases q <;> decide
  rw [readLiteralBody, if_neg other, if_pos rfl]

theorem readLiteralBody_escaped {quote letter meant : Char} (plain : letter ≠ 'u')
    (known : literalEscapes.lookup letter = some meant) (s : List Char) :
    readLiteralBody quote .escaped (letter :: s)
      = (readLiteralBody quote .between s).map fun r => (meant :: r.1, r.2) := by
  rw [readLiteralBody, if_neg plain, known]

theorem readLiteralBody_plain {quote c : Char} (unquoted : c ≠ quote) (unescaped : c ≠ '\\')
    (within : c ∉ lineTerminators) (s : List Char) :
    readLiteralBody quote .between (c :: s)
      = (readLiteralBody quote .between s).map fun r => (c :: r.1, r.2) := by
  rw [readLiteralBody, if_neg unquoted, if_neg unescaped, if_neg within]

/-- A written character is read as itself. -/
theorem readLiteralBody_escapeInCode (q : QuoteStyle) (c : Char) (s : List Char) :
    readLiteralBody q.char .between (escapeInCode q.char c ++ s)
      = (readLiteralBody q.char .between s).map fun r => (c :: r.1, r.2) := by
  unfold escapeInCode
  split_ifs with backslash lf cr tab line paragraph quote
  · rw [backslash]
    exact (readLiteralBody_backslash q _).trans (readLiteralBody_escaped (by decide) rfl s)
  · rw [lf]
    exact (readLiteralBody_backslash q _).trans (readLiteralBody_escaped (by decide) rfl s)
  · rw [cr]
    exact (readLiteralBody_backslash q _).trans (readLiteralBody_escaped (by decide) rfl s)
  · rw [tab]
    exact (readLiteralBody_backslash q _).trans (readLiteralBody_escaped (by decide) rfl s)
  · rw [line]
    exact (readLiteralBody_backslash q _).trans rfl
  · rw [paragraph]
    exact (readLiteralBody_backslash q _).trans rfl
  · rw [quote]
    refine (readLiteralBody_backslash q _).trans ?_
    cases q
    · exact readLiteralBody_escaped (by decide) rfl s
    · exact readLiteralBody_escaped (by decide) rfl s
  · have within : c ∉ lineTerminators := by
      simp [lineTerminators, lf, cr, line, paragraph]
    exact readLiteralBody_plain quote backslash within s

theorem readLiteralBody_flatMap (q : QuoteStyle) (text s : List Char) :
    readLiteralBody q.char .between (text.flatMap (escapeInCode q.char) ++ q.char :: s)
      = some (text, s) := by
  induction text with
  | nil => rw [List.flatMap_nil, List.nil_append, readLiteralBody, if_pos rfl]
  | cons c rest ih =>
      rw [List.flatMap_cons, List.append_assoc, readLiteralBody_escapeInCode, ih]
      rfl

/-- The literal of a text is read as that text, and what comes after it is left. -/
theorem readLiteral_stringLiteral (q : QuoteStyle) (text s : List Char) :
    readLiteral (stringLiteral q text ++ s) = some (text, s) := by
  have quote : q.char = '\'' ∨ q.char = '"' := by cases q <;> decide
  have body := readLiteralBody_flatMap q text s
  rw [stringLiteral, List.cons_append, List.cons_append, List.append_assoc, List.singleton_append,
    readLiteral, if_pos quote, body]

/-! ## Quoting in a buffer -/

/-- Whatever ends a line is written as an escape. -/
theorem notMem_lineTerminators_of_mem_escapeInCode {q : QuoteStyle} {c d : Char}
    (hd : d ∈ escapeInCode q.char c) : d ∉ lineTerminators := by
  have safe : ∀ e ∈ ['\\', 'n', 'r', 't', 'u', '0', '2', '8', '9', '\'', '"'],
      e ∉ lineTerminators := List.all_iff_forall_prop.mp (by decide)
  unfold escapeInCode at hd
  split_ifs at hd with backslash lf cr tab line paragraph quote
  all_goals simp only [List.mem_cons, List.not_mem_nil, or_false] at hd
  · rcases hd with rfl | rfl <;> exact safe _ (by decide)
  · rcases hd with rfl | rfl <;> exact safe _ (by decide)
  · rcases hd with rfl | rfl <;> exact safe _ (by decide)
  · rcases hd with rfl | rfl <;> exact safe _ (by decide)
  · rcases hd with rfl | rfl | rfl | rfl | rfl | rfl <;> exact safe _ (by decide)
  · rcases hd with rfl | rfl | rfl | rfl | rfl | rfl <;> exact safe _ (by decide)
  · rcases hd with rfl | rfl
    · exact safe _ (by decide)
    · rw [quote]
      cases q <;> exact safe _ (by decide)
  · rw [hd]
    simp [lineTerminators, lf, cr, line, paragraph]

theorem notMem_lineTerminators_of_mem_stringLiteral {q : QuoteStyle} {text : List Char} {d : Char}
    (hd : d ∈ stringLiteral q text) : d ∉ lineTerminators := by
  have quote : q.char ∉ lineTerminators := by cases q <;> decide
  rw [stringLiteral, List.cons_append, List.mem_cons, List.mem_append, List.mem_singleton] at hd
  rcases hd with rfl | hd | rfl
  · exact quote
  · obtain ⟨c, -, hd⟩ := List.mem_flatMap.mp hd
    exact notMem_lineTerminators_of_mem_escapeInCode hd
  · exact quote

/-- Quoting a text appends a literal, after the indentation if it begins a line. Whatever follows it,
a reader reads the literal as exactly that text and leaves exactly what follows. The literal begins
with the quote of the buffer and holds nothing that ends a line. -/
theorem readLiteral_quote (b : CodeBuffer) (text : String) :
    ∃ literal : List Char,
      (b.quote text).chars
          = b.chars ++ (if b.atLineStart then b.indentation else []) ++ literal ∧
        literal.head? = some b.options.quoteStyle.char ∧
        (∀ s : List Char, readLiteral (literal ++ s) = some (text.toList, s)) ∧
        ∀ c ∈ literal, c ∉ lineTerminators := by
  refine ⟨stringLiteral b.options.quoteStyle text.toList, ?_, ?_, ?_, ?_⟩
  · have nonempty : (stringLiteral b.options.quoteStyle text.toList).isEmpty = false := rfl
    rw [CodeBuffer.quote, CodeBuffer.writeChars, nonempty]
    cases start : b.atLineStart with
    | true => simp
    | false => simp
  · rw [stringLiteral, List.cons_append, List.head?_cons]
  · intro s
    exact readLiteral_stringLiteral _ _ s
  · intro c hc
    exact notMem_lineTerminators_of_mem_stringLiteral hc

/-- A text full of quotes and backslashes that looks like the end of its own literal. -/
example : readLiteral ("'\\\\\\'; \\\\u2028'".toList ++ "'rest".toList)
    = some ("\\'; \\u2028".toList, "'rest".toList) := by
  decide

end Viewsmith
