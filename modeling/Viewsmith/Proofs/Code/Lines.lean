import Mathlib.Data.List.Basic
import Viewsmith.Code.Buffer

/-!
# Lines of code

Generated code is a list of lines, each with the level at which it is indented. How a level is
indented and how a line ends matters only when the lines are laid out. A buffer at the start of a
line that is fed the tokens of a line is the buffer with that line added (`newline_writeChars`), so
what an emitter does to a buffer is told by the lines that it adds.
-/

namespace Viewsmith

/-- A line of code: the level at which it is indented, and its text. -/
structure Line : Type where
  level : Nat
  text : List Char
deriving DecidableEq, Repr

def WriterOptions.indentation (o : WriterOptions) (level : Nat) : List Char :=
  (List.replicate level o.indentUnit).flatten

theorem lineFeed_notMem_indentation (o : WriterOptions) (level : Nat) :
    '\n' ∉ o.indentation level := by
  intro h
  obtain ⟨unit, hu, member⟩ := List.mem_flatten.mp h
  rw [List.eq_of_mem_replicate hu, WriterOptions.indentUnit] at member
  split at member
  · exact absurd (List.mem_singleton.mp member) (by decide)
  · exact absurd (List.eq_of_mem_replicate member) (by decide)

/-- The characters of a line and its end. An empty line is not indented. -/
def Line.layOut (o : WriterOptions) (l : Line) : List Char :=
  if l.text = [] then o.lineEnd.text.toList
  else o.indentation l.level ++ l.text ++ o.lineEnd.text.toList

def layOutLines (o : WriterOptions) (lines : List Line) : List Char :=
  lines.flatMap (Line.layOut o)

@[simp]
theorem layOutLines_nil (o : WriterOptions) : layOutLines o [] = [] := rfl

@[simp]
theorem layOutLines_cons (o : WriterOptions) (l : Line) (lines : List Line) :
    layOutLines o (l :: lines) = l.layOut o ++ layOutLines o lines := rfl

@[simp]
theorem layOutLines_append (o : WriterOptions) (a b : List Line) :
    layOutLines o (a ++ b) = layOutLines o a ++ layOutLines o b := by
  simp [layOutLines]

/-- Whether a text stays on one line wherever it is written. -/
def IsOneLine (text : List Char) : Prop := '\n' ∉ text ∧ '\r' ∉ text

instance (text : List Char) : Decidable (IsOneLine text) :=
  inferInstanceAs (Decidable (_ ∧ _))

@[simp]
theorem isOneLine_append {s t : List Char} :
    IsOneLine (s ++ t) ↔ IsOneLine s ∧ IsOneLine t := by
  simp only [IsOneLine, List.mem_append]
  tauto

theorem ne_nil_of_head? {text : List Char} {c : Char} (first : text.head? = some c) : text ≠ [] := by
  rintro rfl
  cases first

theorem LineEnd.chars_lf : LineEnd.lf.text.toList = ['\n'] := rfl

theorem LineEnd.chars_crlf : LineEnd.crlf.text.toList = ['\r', '\n'] := rfl

theorem LineEnd.chars_ne_nil (e : LineEnd) : e.text.toList ≠ [] := by
  cases e
  · simp [LineEnd.chars_lf]
  · simp [LineEnd.chars_crlf]

theorem Line.getLast?_layOut (o : WriterOptions) (l : Line) : (l.layOut o).getLast? = some '\n' := by
  unfold Line.layOut
  cases o.lineEnd
  · split <;> simp [LineEnd.chars_lf]
  · split <;> simp [LineEnd.chars_crlf]

theorem Line.layOut_ne_nil (o : WriterOptions) (l : Line) : l.layOut o ≠ [] := by
  intro empty
  have ending := l.getLast?_layOut o
  rw [empty] at ending
  cases ending

theorem length_le_layOutLines (o : WriterOptions) : ∀ lines : List Line,
    lines.length ≤ (layOutLines o lines).length
  | [] => Nat.zero_le _
  | l :: rest => by
      have first : 0 < (l.layOut o).length := List.length_pos_of_ne_nil (l.layOut_ne_nil o)
      have others := length_le_layOutLines o rest
      rw [layOutLines_cons, List.length_append, List.length_cons]
      omega

namespace CodeBuffer

variable {b : CodeBuffer}

/-! ## Tokens of one line -/

@[simp]
theorem append_nil (b : CodeBuffer) : b.append [] = b := rfl

@[simp]
theorem append_append (b : CodeBuffer) (s t : List Char) :
    (b.append s).append t = b.append (s ++ t) := by
  simp [append]

@[simp]
theorem options_append (b : CodeBuffer) (s : List Char) : (b.append s).options = b.options := rfl

@[simp]
theorem level_append (b : CodeBuffer) (s : List Char) : (b.append s).level = b.level := rfl

@[simp]
theorem options_writeChars (b : CodeBuffer) (s : List Char) :
    (b.writeChars s).options = b.options := by
  unfold writeChars
  split
  · rfl
  · split <;> rfl

@[simp]
theorem options_new (o : WriterOptions) : (new o).options = o := rfl

@[simp]
theorem level_new (o : WriterOptions) : (new o).level = 0 := rfl

@[simp]
theorem level_indent (b : CodeBuffer) : b.indent.level = b.level + 1 := rfl

@[simp]
theorem options_indent (b : CodeBuffer) : b.indent.options = b.options := rfl

@[simp]
theorem atLineStart_new (o : WriterOptions) : (new o).atLineStart = true := rfl

@[simp]
theorem atLineStart_indent (b : CodeBuffer) : b.indent.atLineStart = b.atLineStart := rfl

@[simp]
theorem atLineStart_dedent (b : CodeBuffer) : b.dedent.atLineStart = b.atLineStart := rfl

theorem atLineStart_append {s : List Char} (nonempty : s ≠ []) :
    (b.append s).atLineStart = (s.getLast? == some '\n') := by
  rcases List.eq_nil_or_concat' s with rfl | ⟨front, c, rfl⟩
  · exact absurd rfl nonempty
  · simp [append, atLineStart]

theorem writeChars_of_atLineStart (start : b.atLineStart = true) {s : List Char} (nonempty : s ≠ []) :
    b.writeChars s = b.append (b.indentation ++ s) := by
  simp [writeChars, start, nonempty]

theorem writeChars_of_inLine (inside : b.atLineStart = false) (s : List Char) :
    b.writeChars s = b.append s := by
  by_cases empty : s = []
  · simp [empty, writeChars]
  · simp [writeChars, inside, empty]

theorem atLineStart_writeChars {s : List Char} (nonempty : s ≠ []) (h : '\n' ∉ s) :
    (b.writeChars s).atLineStart = false := by
  have last : s.getLast? ≠ some '\n' := fun last => h (List.mem_of_getLast? last)
  cases start : b.atLineStart with
  | true =>
      rw [writeChars_of_atLineStart start nonempty, atLineStart_append (by simp [nonempty]),
        List.getLast?_append_of_ne_nil _ nonempty]
      simpa using last
  | false =>
      rw [writeChars_of_inLine start, atLineStart_append nonempty]
      simpa using last

/-- Two tokens are as good as one, unless the first one ends the line. -/
theorem writeChars_writeChars {s : List Char} (h : IsOneLine s) (t : List Char) :
    (b.writeChars s).writeChars t = b.writeChars (s ++ t) := by
  by_cases empty : s = []
  · simp [empty, writeChars]
  · rw [writeChars_of_inLine (atLineStart_writeChars empty h.1)]
    cases start : b.atLineStart with
    | true =>
        rw [writeChars_of_atLineStart start empty, writeChars_of_atLineStart start (by simp [empty])]
        simp
    | false =>
        rw [writeChars_of_inLine start, writeChars_of_inLine start, append_append]

/-- Tokens of one line, written one after the other, are as good as one. -/
theorem foldl_writeChars {tokens : List (List Char)} (h : ∀ t ∈ tokens, IsOneLine t) :
    tokens.foldl writeChars b = b.writeChars tokens.flatten := by
  induction tokens generalizing b with
  | nil => rfl
  | cons t rest ih =>
      rw [List.foldl_cons, ih fun u hu => h u (List.mem_cons_of_mem _ hu),
        writeChars_writeChars (h t List.mem_cons_self), List.flatten_cons]

theorem write_eq (b : CodeBuffer) (token : String) : b.write token = b.writeChars token.toList := rfl

theorem quote_eq (b : CodeBuffer) (text : String) :
    b.quote text = b.writeChars (stringLiteral b.options.quoteStyle text.toList) := rfl

/-! ## Adding lines -/

def addLines (b : CodeBuffer) (lines : List Line) : CodeBuffer :=
  b.append (layOutLines b.options lines)

@[simp]
theorem addLines_nil (b : CodeBuffer) : b.addLines [] = b := rfl

@[simp]
theorem addLines_addLines (b : CodeBuffer) (first second : List Line) :
    (b.addLines first).addLines second = b.addLines (first ++ second) := by
  simp [addLines]

@[simp]
theorem options_addLines (b : CodeBuffer) (lines : List Line) :
    (b.addLines lines).options = b.options := rfl

@[simp]
theorem level_addLines (b : CodeBuffer) (lines : List Line) :
    (b.addLines lines).level = b.level := rfl

@[simp]
theorem chars_addLines (b : CodeBuffer) (lines : List Line) :
    (b.addLines lines).chars = b.chars ++ layOutLines b.options lines := by
  simp [addLines]

@[simp]
theorem indent_addLines (b : CodeBuffer) (lines : List Line) :
    (b.addLines lines).indent = b.indent.addLines lines := rfl

@[simp]
theorem dedent_addLines (b : CodeBuffer) (lines : List Line) :
    (b.addLines lines).dedent = b.dedent.addLines lines := rfl

@[simp]
theorem dedent_indent (b : CodeBuffer) : b.indent.dedent = b := rfl

theorem atLineStart_addLines (start : b.atLineStart = true) (lines : List Line) :
    (b.addLines lines).atLineStart = true := by
  rcases List.eq_nil_or_concat' lines with rfl | ⟨front, last, rfl⟩
  · exact start
  · have ending := last.getLast?_layOut b.options
    have nonempty : layOutLines b.options (front ++ [last]) ≠ [] := by
      intro empty
      simp only [layOutLines_append, layOutLines_cons, layOutLines_nil, List.append_nil,
        List.append_eq_nil_iff] at empty
      simp [empty.2] at ending
    rw [addLines, atLineStart_append nonempty]
    simp [List.getLast?_append, ending]

/-- A line's text, written at the start of a line and followed by a line end, adds that line. -/
theorem newline_writeChars (start : b.atLineStart = true) (text : List Char) :
    (b.writeChars text).newline = b.addLines [⟨b.level, text⟩] := by
  by_cases empty : text = []
  · simp [empty, writeChars, newline, addLines, Line.layOut, lineEnd]
  · rw [writeChars_of_atLineStart start empty]
    simp [empty, newline, addLines, Line.layOut, lineEnd, indentation, WriterOptions.indentation]

theorem newline_foldl_writeChars (start : b.atLineStart = true) {tokens : List (List Char)}
    (h : ∀ t ∈ tokens, IsOneLine t) :
    (tokens.foldl writeChars b).newline = b.addLines [⟨b.level, tokens.flatten⟩] := by
  rw [foldl_writeChars h, newline_writeChars start]

/-- At the start of a line, closing a block writes its brace one level lower. -/
theorem closeBlock_of_atLineStart (start : b.atLineStart = true) :
    b.closeBlock = b.dedent.writeChars ['\x7d'] := by
  rw [closeBlock, finishLine, if_pos start]
  rfl

end CodeBuffer

end Viewsmith
