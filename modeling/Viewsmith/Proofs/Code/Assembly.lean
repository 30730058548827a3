import Mathlib.Data.List.Basic
import Viewsmith.Code.SourceFile
import Viewsmith.Proofs.Code.Lines

/-!
# Assembling a file

The parts of a source file are put together as texts, and the empty lines between them depend on how
the text so far ends. When the parts are laid out lines, the last one still open, the file is their
lines with an empty line after each part but the last (`assemble_eq`).
-/

namespace Viewsmith

namespace CodeBuffer

variable {b : CodeBuffer}

/-! ## Open lines -/

theorem isEmpty_iff_chars (b : CodeBuffer) : b.isEmpty = true ↔ b.chars = [] := by
  rw [isEmpty, List.isEmpty_iff, chars, List.reverse_eq_nil_iff]

theorem finishLine_writeChars (start : b.atLineStart = true) {text : List Char} (nonempty : text ≠ [])
    (oneLine : IsOneLine text) : (b.writeChars text).finishLine = b.addLines [⟨b.level, text⟩] := by
  rw [finishLine, atLineStart_writeChars nonempty oneLine.1, if_neg Bool.false_ne_true,
    newline_writeChars start]

/-- A line with a text does not end in an empty line. -/
theorem not_endsBlank {text : List Char} (nonempty : text ≠ []) (oneLine : IsOneLine text)
    (lines : List Line) (level : Nat) :
    ¬ (b.lineEnd ++ b.lineEnd).reverse.isPrefixOf (b.addLines (lines ++ [⟨level, text⟩])).reversed
        = true := by
  obtain ⟨front, c, rfl⟩ := (List.eq_nil_or_concat' text).resolve_left nonempty
  have lf : '\n' ≠ c := by
    rintro rfl
    exact oneLine.1 (by simp)
  -- Read backwards, the buffer has one line end and then `c`, which is no line feed.
  have reversed : (b.addLines (lines ++ [⟨level, front ++ [c]⟩])).reversed
      = b.lineEnd.reverse ++ c :: (front.reverse ++ ((b.options.indentation level).reverse
          ++ ((layOutLines b.options lines).reverse ++ b.reversed))) := by
    simp [addLines, append, Line.layOut, lineEnd]
  rw [reversed, lineEnd]
  cases b.options.lineEnd with
  | lf => simp [LineEnd.chars_lf, lf]
  | crlf => simp [LineEnd.chars_crlf, lf]

/-- A buffer whose last line, once finished, has a text gets an empty line. -/
theorem blankLine_of_finishLine {c : CodeBuffer} {lines : List Line} {level : Nat} {text : List Char}
    (nonempty : text ≠ []) (oneLine : IsOneLine text) (written : b.isEmpty = false)
    (finished : b.finishLine = c.addLines (lines ++ [⟨level, text⟩])) :
    b.blankLine = c.addLines (lines ++ [⟨level, text⟩, ⟨0, []⟩]) := by
  have unfinished := not_endsBlank (b := c) nonempty oneLine lines level
  have blank : (c.addLines (lines ++ [⟨level, text⟩])).newline
      = c.addLines (lines ++ [⟨level, text⟩, ⟨0, []⟩]) := by
    simp [newline, addLines, Line.layOut, lineEnd]
  rw [blankLine, written, if_neg Bool.false_ne_true]
  simp only [finished]
  exact (if_neg unfinished).trans blank

theorem isEmpty_addLines (lines : List Line) (l : Line) :
    (b.addLines (lines ++ [l])).isEmpty = false := by
  rw [← Bool.not_eq_true, isEmpty_iff_chars]
  simp [Line.layOut_ne_nil]

theorem isEmpty_writeChars (start : b.atLineStart = true) {text : List Char} (nonempty : text ≠ []) :
    (b.writeChars text).isEmpty = false := by
  rw [writeChars_of_atLineStart start nonempty, ← Bool.not_eq_true, isEmpty_iff_chars]
  simp [nonempty]

/-! ## Parts -/

/-- A finished part, put into a buffer at the start of a line without indentation. -/
theorem writeRaw_addLines {o : WriterOptions} (options : b.options = o) (lines : List Line) :
    b.writeRaw ((new o).addLines lines).text = b.addLines lines := by
  subst options
  simp [writeRaw, text, addLines]

/-- A part with an open last line, put into a buffer at the start of a line without indentation. -/
theorem writeRaw_openPart {o : WriterOptions} (options : b.options = o) (level : b.level = 0)
    (start : b.atLineStart = true) (lines : List Line) (last : List Char) :
    b.writeRaw (((new o).addLines lines).writeChars last).text
      = (b.addLines lines).writeChars last := by
  subst options
  by_cases empty : last = []
  · rw [empty]
    exact writeRaw_addLines rfl lines
  · rw [writeChars_of_atLineStart (atLineStart_addLines rfl lines) empty,
      writeChars_of_atLineStart (atLineStart_addLines start lines) empty]
    simp [writeRaw, text, addLines, indentation, level]

/-- The empty line after the import statements, if there are any. -/
theorem blankLine_statements {o : WriterOptions} {statements : List Line}
    (texts : ∀ l ∈ statements, l.text ≠ [] ∧ IsOneLine l.text) :
    ((new o).addLines statements).blankLine
      = (new o).addLines (if statements = [] then [] else statements ++ [⟨0, []⟩]) := by
  rcases List.eq_nil_or_concat' statements with rfl | ⟨front, ⟨level, text⟩, rfl⟩
  · rfl
  · obtain ⟨nonempty, oneLine⟩ := texts ⟨level, text⟩ (by simp)
    have started := atLineStart_addLines (atLineStart_new o) (front ++ [⟨level, text⟩])
    have finished : ((new o).addLines (front ++ [⟨level, text⟩])).finishLine
        = (new o).addLines (front ++ [⟨level, text⟩]) := by
      rw [finishLine, started, if_pos rfl]
    rw [blankLine_of_finishLine nonempty oneLine (isEmpty_addLines ..) finished]
    simp

end CodeBuffer

open CodeBuffer in
/-- A file is the lines of its parts, with an empty line after the statements, if there are any, and
one after the component. -/
theorem assemble_eq (o : WriterOptions) {statements : List Line}
    (texts : ∀ l ∈ statements, l.text ≠ [] ∧ IsOneLine l.text) (body sheet : List Line)
    {bodyEnd sheetEnd : List Char} (body_ne_nil : bodyEnd ≠ []) (bodyOneLine : IsOneLine bodyEnd)
    (sheet_ne_nil : sheetEnd ≠ []) (sheetOneLine : IsOneLine sheetEnd) :
    assemble o ((new o).addLines statements).text (((new o).addLines body).writeChars bodyEnd).text
        (((new o).addLines sheet).writeChars sheetEnd).text
      = String.ofList (layOutLines o
          ((if statements = [] then [] else statements ++ [⟨0, []⟩])
            ++ (body ++ [⟨0, bodyEnd⟩]) ++ [⟨0, []⟩] ++ (sheet ++ [⟨0, sheetEnd⟩]))) := by
  generalize top : (if statements = [] then [] else statements ++ [⟨0, []⟩]) = first
  have start (lines : List Line) : ((new o).addLines lines).atLineStart = true :=
    atLineStart_addLines (atLineStart_new o) lines
  have statementsPart : ((new o).writeRaw ((new o).addLines statements).text).blankLine
      = (new o).addLines first := by
    rw [writeRaw_addLines (options_new o), blankLine_statements texts, top]
  have bodyPart : (((new o).addLines first).writeRaw
      (((new o).addLines body).writeChars bodyEnd).text).blankLine
        = (new o).addLines (first ++ body ++ [⟨0, bodyEnd⟩, ⟨0, []⟩]) := by
    rw [writeRaw_openPart (o := o) rfl rfl (start first), addLines_addLines]
    refine blankLine_of_finishLine body_ne_nil bodyOneLine
      (isEmpty_writeChars (start _) body_ne_nil) ?_
    rw [finishLine_writeChars (start _) body_ne_nil bodyOneLine, addLines_addLines, level_addLines,
      level_new]
  rw [assemble, statementsPart]
  simp only [bodyPart]
  rw [writeRaw_openPart (o := o) rfl rfl (start _), addLines_addLines,
    finishLine_writeChars (start _) sheet_ne_nil sheetOneLine, addLines_addLines, text]
  simp

end Viewsmith
