import Mathlib.Data.List.Basic
import Mathlib.Data.List.Induction
import Viewsmith.Proofs.Code.Assembly
import Viewsmith.Proofs.Code.Tokens

/-!
# Outlines of buffers

A buffer finds its lines again in its text: it looks whether the text ends in a line feed, and whether
it ends in two line ends. An outline keeps the lines themselves, without a word about how they are
indented and ended, and every step of a buffer has a counterpart on outlines (`BufferStep.draw`). A
buffer and its outline agree as long as no line feed is written inside of a text (`Draws.apply`), in
whatever order the steps come. So the lines of a run are the same under all options
(`lines_of_run`).
-/

namespace Viewsmith

/-! ## Steps -/

inductive BufferStep : Type where
  | write (token : String)
  | quote (text : String)
  | literal (value : Literal)
  | writeRaw (code : String)
  | newline
  | finishLine
  | blankLine
  | openBlock
  | closeBlock
  | indent
  | dedent

namespace BufferStep

def apply : BufferStep → CodeBuffer → CodeBuffer
  | write token, b => b.write token
  | quote text, b => b.quote text
  | literal value, b => b.literal value
  | writeRaw code, b => b.writeRaw code
  | newline, b => b.newline
  | finishLine, b => b.finishLine
  | blankLine, b => b.blankLine
  | openBlock, b => b.openBlock
  | closeBlock, b => b.closeBlock
  | indent, b => b.indent
  | dedent, b => b.dedent

/-- Whether no line feed is in the text that a step writes as it is. -/
def IsPlain : BufferStep → Prop
  | write token => '\n' ∉ token.toList
  | writeRaw code => '\n' ∉ code.toList
  | _ => True

/-- The text that a step writes, with the level of the line if it begins one; the level is that of the
buffer before the step. Finished code is not indented. -/
def piece (style : QuoteStyle) (level : Nat) : BufferStep → Line
  | write token => ⟨level, token.toList⟩
  | quote text => ⟨level, stringLiteral style text.toList⟩
  | literal value => ⟨level, value.written.codeText style⟩
  | writeRaw code => ⟨0, code.toList⟩
  | openBlock => ⟨level, ['\x7b']⟩
  | closeBlock => ⟨level - 1, ['\x7d']⟩
  | _ => ⟨level, []⟩

theorem lineFeed_notMem_piece {s : BufferStep} (plain : s.IsPlain) (style : QuoteStyle) (level : Nat) :
    '\n' ∉ (s.piece style level).text := by
  cases s with
  | write | writeRaw => exact plain
  | quote text => exact (isOneLine_stringLiteral style text.toList).1
  | literal value => exact (isOneLine_codeText_written style value).1
  | openBlock | closeBlock => simp [piece]
  | newline | finishLine | blankLine | indent | dedent => exact List.not_mem_nil

end BufferStep

def CodeBuffer.run (b : CodeBuffer) (steps : List BufferStep) : CodeBuffer :=
  steps.foldl (fun b s => s.apply b) b

theorem CodeBuffer.run_append (b : CodeBuffer) (before after : List BufferStep) :
    b.run (before ++ after) = (b.run before).run after :=
  List.foldl_append

/-! ## Outlines -/

/-- Lines under construction: those that have been ended, the one that has not, and the level. -/
structure Outline : Type where
  finished : List Line
  current : Line
  level : Nat

namespace Outline

def new : Outline := ⟨[], ⟨0, []⟩, 0⟩

/-- All lines; the last one has not been ended. -/
def lines (p : Outline) : List Line := p.finished ++ [p.current]

/-- Adds a piece to the current line. The first piece of a line decides on its level. -/
def put (p : Outline) (piece : Line) : Outline :=
  if piece.text = [] then p
  else if p.current.text = [] then { p with current := piece }
  else { p with current := ⟨p.current.level, p.current.text ++ piece.text⟩ }

def newline (p : Outline) : Outline := { p with finished := p.lines, current := ⟨0, []⟩ }

def finishLine (p : Outline) : Outline := if p.current.text = [] then p else p.newline

def endsBlank (p : Outline) : Bool :=
  match p.finished.reverse with
  | l :: _ :: _ => l.text.isEmpty
  | _ => false

/-- Ends the line unless it is empty and adds an empty line, if there is anything and no empty line
yet. -/
def blankLine (p : Outline) : Outline :=
  if p.finished = [] ∧ p.current.text = [] then p
  else if p.finishLine.endsBlank then p.finishLine
  else p.finishLine.newline

def indent (p : Outline) : Outline := { p with level := p.level + 1 }

def dedent (p : Outline) : Outline := { p with level := p.level - 1 }

theorem endsBlank_of_finished {p : Outline} {front : List Line} {last : Line}
    (shape : p.finished = front ++ [last]) : p.endsBlank = true ↔ front ≠ [] ∧ last.text = [] := by
  rw [endsBlank, shape, List.reverse_append, List.reverse_singleton]
  rcases List.eq_nil_or_concat' front with rfl | ⟨front, l, rfl⟩
  · simp
  · simp

theorem finishLine_of_empty {p : Outline} (empty : p.current.text = []) : p.finishLine = p :=
  if_pos empty

theorem current_finishLine (p : Outline) : p.finishLine.current.text = [] := by
  rw [finishLine]
  split
  · assumption
  · rfl

/-- A second empty line is not added. -/
theorem blankLine_blankLine (p : Outline) : p.blankLine.blankLine = p.blankLine := by
  have again {q : Outline} (empty : q.current.text = []) (blank : q.endsBlank = true) :
      q.blankLine = q := by
    rw [blankLine, finishLine_of_empty empty, if_pos blank, ite_self]
  by_cases nothing : p.finished = [] ∧ p.current.text = []
  · have same : p.blankLine = p := if_pos nothing
    rw [same, same]
  · have empty := p.current_finishLine
    have whole : p.blankLine = if p.finishLine.endsBlank then p.finishLine else p.finishLine.newline :=
      if_neg nothing
    rw [whole]
    split
    · rename_i blank
      exact again empty blank
    · refine again rfl ((endsBlank_of_finished (p := p.finishLine.newline) rfl).mpr ⟨?_, empty⟩)
      rw [finishLine]
      split
      · rename_i started
        exact fun none => nothing ⟨none, started⟩
      · simp [newline, lines]

end Outline

namespace BufferStep

def draw (style : QuoteStyle) (s : BufferStep) (p : Outline) : Outline :=
  match s with
  | newline => p.newline
  | finishLine => p.finishLine
  | blankLine => p.blankLine
  | openBlock => ((p.put (s.piece style p.level)).newline).indent
  | closeBlock => p.finishLine.dedent.put (s.piece style p.level)
  | indent => p.indent
  | dedent => p.dedent
  | write _ | quote _ | literal _ | writeRaw _ => p.put (s.piece style p.level)

end BufferStep

def Outline.run (style : QuoteStyle) (steps : List BufferStep) : Outline :=
  steps.foldl (fun p s => s.draw style p) .new

theorem Outline.run_snoc (style : QuoteStyle) (steps : List BufferStep) (s : BufferStep) :
    Outline.run style (steps ++ [s]) = s.draw style (Outline.run style steps) :=
  List.foldl_append

/-! ## Buffers and their outlines -/

def Line.unfinished (o : WriterOptions) (l : Line) : List Char :=
  if l.text = [] then [] else o.indentation l.level ++ l.text

theorem Line.layOut_eq_unfinished (o : WriterOptions) (l : Line) :
    l.layOut o = l.unfinished o ++ o.lineEnd.text.toList := by
  rw [layOut, unfinished]
  split
  · rfl
  · rfl

def joinLines (o : WriterOptions) (lines : List Line) : List Char :=
  o.lineEnd.text.toList.intercalate (lines.map (Line.unfinished o))

theorem joinLines_append_singleton (o : WriterOptions) (finished : List Line) (current : Line) :
    joinLines o (finished ++ [current]) = layOutLines o finished ++ current.unfinished o := by
  induction finished with
  | nil => exact List.intercalate_singleton
  | cons l rest ih =>
      obtain ⟨next, others, more⟩ := List.exists_cons_of_ne_nil
        (List.append_ne_nil_of_right_ne_nil rest (List.cons_ne_nil current []))
      rw [joinLines, more] at ih
      rw [joinLines, List.cons_append, more, List.map_cons, List.map_cons, List.intercalate_cons_cons,
        ← List.map_cons, ih, layOutLines_cons, Line.layOut_eq_unfinished]
      simp

/-- Whether a buffer holds the lines of an outline, each of which is one line. -/
structure Draws (p : Outline) (b : CodeBuffer) : Prop where
  level : b.level = p.level
  chars : b.chars = joinLines b.options p.lines
  oneLine : ∀ l ∈ p.lines, '\n' ∉ l.text

theorem Line.unfinished_eq_nil {o : WriterOptions} {l : Line} :
    l.unfinished o = [] ↔ l.text = [] := by
  rw [unfinished]
  split
  · rename_i empty
    exact iff_of_true rfl empty
  · rename_i nonempty
    exact iff_of_false (by simp [nonempty]) nonempty

theorem Line.getLast?_unfinished {o : WriterOptions} {l : Line} (nonempty : l.text ≠ []) :
    (l.unfinished o).getLast? = l.text.getLast? := by
  rw [unfinished, if_neg nonempty, List.getLast?_append_of_ne_nil _ nonempty]

theorem getLast?_layOutLines (o : WriterOptions) {lines : List Line} (nonempty : lines ≠ []) :
    (layOutLines o lines).getLast? = some '\n' := by
  rcases List.eq_nil_or_concat' lines with rfl | ⟨front, last, rfl⟩
  · exact absurd rfl nonempty
  · rw [layOutLines_append, layOutLines_cons, layOutLines_nil, List.append_nil,
      List.getLast?_append_of_ne_nil _ (last.layOut_ne_nil o), last.getLast?_layOut]

theorem CodeBuffer.atLineStart_iff (b : CodeBuffer) :
    b.atLineStart = true ↔ b.chars = [] ∨ b.chars.getLast? = some '\n' := by
  rw [atLineStart, chars]
  cases b.reversed with
  | nil => simp
  | cons c rest => simp

/-- A text that lines and an open line make up ends in a line end exactly if the open line is empty and
there are others. -/
theorem lineEnd_suffix_iff {o : WriterOptions} (front : List Line) {last : Line}
    (oneLine : '\n' ∉ last.text) :
    o.lineEnd.text.toList <:+ layOutLines o front ++ last.unfinished o ↔
      front ≠ [] ∧ last.text = [] := by
  have some : o.lineEnd.text.toList ≠ [] := LineEnd.chars_ne_nil _
  by_cases empty : last.text = []
  · rw [Line.unfinished_eq_nil.mpr empty, List.append_nil, and_iff_left empty]
    rcases List.eq_nil_or_concat' front with rfl | ⟨front, before, rfl⟩
    · simp [some]
    · refine iff_of_true ?_ (by simp)
      rw [layOutLines_append, layOutLines_cons, Line.layOut_eq_unfinished, layOutLines_nil,
        List.append_nil, ← List.append_assoc]
      exact List.suffix_append _ _
  · refine iff_of_false ?_ fun blank => empty blank.2
    rintro ⟨before, whole⟩
    have ending : o.lineEnd.text.toList.getLast? = .some '\n' := by
      cases o.lineEnd <;> rfl
    have last? := congrArg List.getLast? whole
    rw [List.getLast?_append_of_ne_nil _ some, ending,
      List.getLast?_append_of_ne_nil _ (fun same => empty (Line.unfinished_eq_nil.mp same)),
      Line.getLast?_unfinished empty] at last?
    exact oneLine (List.mem_of_getLast? last?.symm)

/-- A buffer is its options, its characters and its level. -/
theorem CodeBuffer.eq_of_chars {b c : CodeBuffer} (options : b.options = c.options)
    (chars : b.chars = c.chars) (level : b.level = c.level) : b = c := by
  obtain ⟨o, reversed, n⟩ := b
  obtain ⟨o', reversed', n'⟩ := c
  have same : reversed = reversed' := List.reverse_injective chars
  cases options
  cases level
  rw [same]

namespace Draws

variable {p : Outline} {b : CodeBuffer}

theorem chars_eq (h : Draws p b) :
    b.chars = layOutLines b.options p.finished ++ p.current.unfinished b.options := by
  rw [h.chars, Outline.lines, joinLines_append_singleton]

theorem isEmpty_iff (h : Draws p b) :
    b.isEmpty = true ↔ p.finished = [] ∧ p.current.text = [] := by
  rw [CodeBuffer.isEmpty_iff_chars, h.chars_eq, List.append_eq_nil_iff, Line.unfinished_eq_nil]
  refine and_congr_left' ⟨fun empty => ?_, fun empty => by rw [empty]; rfl⟩
  by_contra nonempty
  have ending := getLast?_layOutLines b.options nonempty
  rw [empty] at ending
  cases ending

/-- A buffer is at the start of a line exactly if nothing is in the current line of its outline. -/
theorem atLineStart_iff (h : Draws p b) : b.atLineStart = true ↔ p.current.text = [] := by
  rw [CodeBuffer.atLineStart_iff, h.chars_eq]
  by_cases empty : p.current.text = []
  · rw [Line.unfinished_eq_nil.mpr empty, List.append_nil]
    refine iff_of_true ?_ empty
    by_cases none : p.finished = []
    · exact Or.inl (by rw [none]; rfl)
    · exact Or.inr (getLast?_layOutLines _ none)
  · refine iff_of_false ?_ empty
    have nonempty : p.current.unfinished b.options ≠ [] := fun same => empty (Line.unfinished_eq_nil.mp same)
    rintro (none | last)
    · exact nonempty (List.append_eq_nil_iff.mp none).2
    · rw [List.getLast?_append_of_ne_nil _ nonempty, Line.getLast?_unfinished empty] at last
      exact h.oneLine p.current (by simp [Outline.lines]) (List.mem_of_getLast? last)

/-- A buffer at the start of a line ends in two line ends exactly if an empty line ends its outline. -/
theorem endsBlank_iff (h : Draws p b) (start : p.current.text = []) (nonempty : p.finished ≠ []) :
    (b.lineEnd ++ b.lineEnd).reverse.isPrefixOf b.reversed = true ↔ p.endsBlank = true := by
  obtain ⟨front, last, shape⟩ := (List.eq_nil_or_concat' p.finished).resolve_left nonempty
  have chars : b.chars = (layOutLines b.options front ++ last.unfinished b.options) ++ b.lineEnd := by
    rw [h.chars_eq, Line.unfinished_eq_nil.mpr start, shape, layOutLines_append, layOutLines_cons,
      Line.layOut_eq_unfinished, CodeBuffer.lineEnd]
    simp
  have reversed : b.reversed = b.chars.reverse := (List.reverse_reverse _).symm
  rw [List.isPrefixOf_iff_prefix, reversed, List.reverse_prefix, chars,
    List.suffix_append_inj_of_length_eq rfl, and_iff_left rfl, Outline.endsBlank_of_finished shape]
  exact lineEnd_suffix_iff front (h.oneLine last (by simp [Outline.lines, shape]))

/-! ## Steps -/

theorem new (o : WriterOptions) : Draws .new (.new o) where
  level := rfl
  chars := List.intercalate_singleton.symm
  oneLine := by simp [Outline.lines, Outline.new]

/-- What comes after the lines that have been ended decides on the current line. -/
theorem of_current {q : Outline} {c : CodeBuffer} {current : Line} (h : Draws p b)
    (options : c.options = b.options) (level : c.level = q.level)
    (shape : q.lines = p.finished ++ [current]) (oneLine : '\n' ∉ current.text)
    (chars : c.chars = layOutLines b.options p.finished ++ current.unfinished b.options) :
    Draws q c where
  level := level
  chars := by rw [options, shape, joinLines_append_singleton, chars]
  oneLine := by
    rw [shape, List.forall_mem_append]
    exact ⟨fun l hl => h.oneLine l (List.mem_append_left _ hl), by simpa using oneLine⟩

/-- A piece whose level is the one at which the buffer would begin a line. -/
theorem put (h : Draws p b) {c : CodeBuffer} {piece : Line} (oneLine : '\n' ∉ piece.text)
    (options : c.options = b.options) (level : c.level = b.level)
    (chars : c.chars = b.chars
      ++ if b.atLineStart then piece.unfinished b.options else piece.text) :
    Draws (p.put piece) c := by
  rw [h.chars_eq] at chars
  by_cases nothing : piece.text = []
  · have same : p.put piece = p := if_pos nothing
    rw [same]
    refine h.of_current options (level.trans h.level) rfl (h.oneLine _ (by simp [Outline.lines])) ?_
    rw [chars, Line.unfinished_eq_nil.mpr nothing, nothing, ite_self, List.append_nil]
  · by_cases start : p.current.text = []
    · have begun : p.put piece = { p with current := piece } := by
        rw [Outline.put, if_neg nothing, if_pos start]
      rw [h.atLineStart_iff.mpr start, if_pos rfl, Line.unfinished_eq_nil.mpr start,
        List.append_nil] at chars
      rw [begun]
      exact h.of_current options (level.trans h.level) rfl oneLine chars
    · have inside : p.put piece
          = { p with current := ⟨p.current.level, p.current.text ++ piece.text⟩ } := by
        rw [Outline.put, if_neg nothing, if_neg start]
      have before : ¬ b.atLineStart = true := fun atStart => start (h.atLineStart_iff.mp atStart)
      rw [if_neg before, List.append_assoc] at chars
      rw [inside]
      refine h.of_current options (level.trans h.level) rfl ?_ ?_
      · rw [List.mem_append, not_or]
        exact ⟨h.oneLine _ (by simp [Outline.lines]), oneLine⟩
      · rw [chars, Line.unfinished, Line.unfinished, if_neg start, if_neg (by simp [start])]
        simp

theorem writeChars (h : Draws p b) {token : List Char} (oneLine : '\n' ∉ token) :
    Draws (p.put ⟨p.level, token⟩) (b.writeChars token) := by
  have level : (b.writeChars token).level = b.level := by
    unfold CodeBuffer.writeChars
    split
    · rfl
    · split <;> rfl
  refine h.put oneLine (CodeBuffer.options_writeChars b token) level ?_
  rw [← h.level, Line.unfinished]
  by_cases nothing : token = []
  · simp [nothing, CodeBuffer.writeChars]
  · cases start : b.atLineStart with
    | true =>
        rw [CodeBuffer.writeChars_of_atLineStart start nothing, if_pos rfl, if_neg nothing]
        exact CodeBuffer.chars_append b _
    | false =>
        rw [CodeBuffer.writeChars_of_inLine start, if_neg Bool.false_ne_true]
        exact CodeBuffer.chars_append b _

theorem writeRaw (h : Draws p b) {code : String} (oneLine : '\n' ∉ code.toList) :
    Draws (p.put ⟨0, code.toList⟩) (b.writeRaw code) := by
  refine h.put oneLine rfl rfl ?_
  have bare : Line.unfinished b.options ⟨0, code.toList⟩ = code.toList := by
    rw [Line.unfinished]
    split
    · rename_i nothing
      exact nothing.symm
    · rfl
  rw [bare, ite_self]
  exact CodeBuffer.chars_append b _

theorem newline (h : Draws p b) : Draws p.newline b.newline where
  level := h.level
  chars := by
    rw [CodeBuffer.chars_newline, h.chars_eq, Outline.newline, Outline.lines, joinLines_append_singleton,
      Outline.lines, layOutLines_append, layOutLines_cons, Line.layOut_eq_unfinished]
    simp [Line.unfinished, CodeBuffer.lineEnd, CodeBuffer.newline]
  oneLine := by
    rw [Outline.newline, Outline.lines, List.forall_mem_append]
    exact ⟨h.oneLine, by simp⟩

theorem finishLine (h : Draws p b) : Draws p.finishLine b.finishLine := by
  rw [Outline.finishLine, CodeBuffer.finishLine]
  by_cases start : p.current.text = []
  · rw [if_pos start, if_pos (h.atLineStart_iff.mpr start)]
    exact h
  · rw [if_neg start, if_neg fun atStart => start (h.atLineStart_iff.mp atStart)]
    exact h.newline

theorem blankLine (h : Draws p b) : Draws p.blankLine b.blankLine := by
  rw [Outline.blankLine, CodeBuffer.blankLine]
  by_cases nothing : p.finished = [] ∧ p.current.text = []
  · rw [if_pos nothing, if_pos (h.isEmpty_iff.mpr nothing)]
    exact h
  · rw [if_neg nothing, if_neg fun empty => nothing (h.isEmpty_iff.mp empty)]
    have finished := h.finishLine
    have nonempty : p.finishLine.finished ≠ [] := by
      rw [Outline.finishLine]
      split
      · rename_i started
        exact fun none => nothing ⟨none, started⟩
      · simp [Outline.newline, Outline.lines]
    have blank := finished.endsBlank_iff p.current_finishLine nonempty
    split
    · rename_i ends
      exact (if_pos (blank.mpr ends)).symm ▸ finished
    · rename_i goesOn
      exact (if_neg fun ends => goesOn (blank.mp ends)).symm ▸ finished.newline

theorem indent (h : Draws p b) : Draws p.indent b.indent :=
  ⟨congrArg (· + 1) h.level, h.chars, h.oneLine⟩

theorem dedent (h : Draws p b) : Draws p.dedent b.dedent :=
  ⟨congrArg (· - 1) h.level, h.chars, h.oneLine⟩

/-- A step of a buffer does to its lines what it does to its outline. -/
theorem apply (h : Draws p b) {s : BufferStep} (plain : s.IsPlain) :
    Draws (s.draw b.options.quoteStyle p) (s.apply b) := by
  have oneLine := BufferStep.lineFeed_notMem_piece plain b.options.quoteStyle p.level
  cases s with
  | write token => exact h.writeChars oneLine
  | quote text => exact h.writeChars oneLine
  | literal value =>
      rw [BufferStep.apply, CodeBuffer.literal_eq]
      exact h.writeChars oneLine
  | writeRaw code => exact h.writeRaw oneLine
  | newline => exact h.newline
  | finishLine => exact h.finishLine
  | blankLine => exact h.blankLine
  | openBlock => exact (h.writeChars oneLine).newline.indent
  | closeBlock =>
      have level : p.finishLine.dedent.level = p.level - 1 := by
        rw [← h.finishLine.dedent.level, ← h.level]
        unfold CodeBuffer.finishLine
        split <;> rfl
      have closed := h.finishLine.dedent.writeChars oneLine
      rw [level] at closed
      exact closed
  | indent => exact h.indent
  | dedent => exact h.dedent

/-- The line feeds of a buffer are those that end its lines. -/
theorem count_lineFeed (h : Draws p b) : b.chars.count '\n' = p.finished.length := by
  have none {l : Line} (hl : l ∈ p.lines) : (l.unfinished b.options).count '\n' = 0 := by
    rw [List.count_eq_zero, Line.unfinished]
    split
    · exact List.not_mem_nil
    · rw [List.mem_append, not_or]
      exact ⟨lineFeed_notMem_indentation _ _, h.oneLine l hl⟩
  have one : b.options.lineEnd.text.toList.count '\n' = 1 := by
    cases b.options.lineEnd <;> rfl
  have ended : ∀ finished : List Line, (∀ l ∈ finished, l ∈ p.lines) →
      (layOutLines b.options finished).count '\n' = finished.length := by
    intro finished
    induction finished with
    | nil => exact fun _ => rfl
    | cons l rest ih =>
        rw [List.forall_mem_cons]
        rintro ⟨hl, others⟩
        rw [layOutLines_cons, Line.layOut_eq_unfinished, List.count_append, List.count_append, none hl, one,
          ih others, List.length_cons]
        omega
  rw [h.chars_eq, List.count_append, none (by simp [Outline.lines]),
    ended p.finished fun l hl => List.mem_append_left _ hl, Nat.add_zero]

end Draws

@[simp]
theorem CodeBuffer.options_finishLine (b : CodeBuffer) : b.finishLine.options = b.options := by
  unfold finishLine
  split <;> rfl

theorem BufferStep.options_apply (s : BufferStep) (b : CodeBuffer) : (s.apply b).options = b.options := by
  cases s with
  | write | quote => exact CodeBuffer.options_writeChars _ _
  | literal value =>
      rw [apply, CodeBuffer.literal_eq]
      exact CodeBuffer.options_writeChars _ _
  | writeRaw | newline | indent | dedent => rfl
  | finishLine => exact b.options_finishLine
  | blankLine =>
      have whole : b.blankLine = b ∨ b.blankLine = b.finishLine ∨ b.blankLine = b.finishLine.newline := by
        simp only [CodeBuffer.blankLine]
        split
        · exact Or.inl rfl
        · exact Or.inr (ite_eq_or_eq _ _ _)
      rw [apply]
      rcases whole with whole | whole | whole
      · rw [whole]
      · rw [whole, b.options_finishLine]
      · rw [whole]
        exact b.options_finishLine
  | openBlock => exact CodeBuffer.options_writeChars b _
  | closeBlock => exact (CodeBuffer.options_writeChars _ _).trans b.options_finishLine

/-- A buffer and its outline agree after every run. -/
theorem draws_run (o : WriterOptions) (steps : List BufferStep) (plain : ∀ s ∈ steps, s.IsPlain) :
    Draws (Outline.run o.quoteStyle steps) ((CodeBuffer.new o).run steps) ∧
      ((CodeBuffer.new o).run steps).options = o := by
  induction steps using List.reverseRecOn with
  | nil => exact ⟨.new o, rfl⟩
  | append_singleton steps s ih =>
      rw [List.forall_mem_append] at plain
      obtain ⟨drawn, options⟩ := ih plain.1
      have last := drawn.apply (plain.2 s List.mem_cons_self)
      rw [options] at last
      rw [Outline.run_snoc, CodeBuffer.run_append]
      exact ⟨last, (s.options_apply _).trans options⟩

/-! ## Beginnings of lines -/

namespace Outline

variable {p : Outline} {l : Line} {i : Nat}

/-- Whether a line of an outline continues one that an earlier outline has. -/
def Continues (p : Outline) (i : Nat) (l : Line) : Prop :=
  ∃ first : Line, p.lines[i]? = some first ∧ first.text ≠ [] ∧ first.level = l.level ∧
    first.text <+: l.text

theorem getElem?_newline (h : p.newline.lines[i]? = some l) (nonempty : l.text ≠ []) :
    p.lines[i]? = some l := by
  have shape : p.newline.lines = p.lines ++ [⟨0, []⟩] := rfl
  rw [shape, List.getElem?_append] at h
  split at h
  · exact h
  · rw [List.getElem?_singleton] at h
    split at h
    · cases h
      exact absurd rfl nonempty
    · cases h

theorem getElem?_finishLine (h : p.finishLine.lines[i]? = some l) (nonempty : l.text ≠ []) :
    p.lines[i]? = some l := by
  rw [finishLine] at h
  split at h
  · exact h
  · exact getElem?_newline h nonempty

theorem getElem?_blankLine (h : p.blankLine.lines[i]? = some l) (nonempty : l.text ≠ []) :
    p.lines[i]? = some l := by
  rw [blankLine] at h
  split at h
  · exact h
  · split at h
    · exact getElem?_finishLine h nonempty
    · exact getElem?_finishLine (getElem?_newline h nonempty) nonempty

/-- A line that is there continues itself. -/
theorem Continues.refl (h : p.lines[i]? = some l) (nonempty : l.text ≠ []) : p.Continues i l :=
  ⟨l, h, nonempty, rfl, List.prefix_rfl⟩

/-- A piece goes on with the current line, or begins it. -/
theorem getElem?_put {piece : Line} (h : (p.put piece).lines[i]? = some l) (nonempty : l.text ≠ []) :
    p.Continues i l ∨ (p.current.text = [] ∧ p.finished.length = i ∧ l = piece) := by
  rw [put] at h
  split at h
  · exact Or.inl (.refl h nonempty)
  · have earlier {current : Line} (h : (p.finished ++ [current])[i]? = some l) :
        p.Continues i l ∨ (p.finished.length = i ∧ l = current) := by
      rw [List.getElem?_append] at h
      split at h
      · rename_i below
        refine Or.inl (.refl ?_ nonempty)
        rw [lines, List.getElem?_append_left below, h]
      · rw [List.getElem?_singleton] at h
        split at h
        · exact Or.inr ⟨by omega, (Option.some.inj h).symm⟩
        · cases h
    split at h
    · rename_i start
      exact (earlier h).imp_right fun last => ⟨start, last⟩
    · rename_i inside
      refine Or.inl ((earlier h).elim id fun last => ?_)
      obtain ⟨rfl, rfl⟩ := last
      exact ⟨p.current, by simp [lines], inside, rfl, List.prefix_append _ _⟩

end Outline

namespace BufferStep

/-- The buffer to which a step adds its text: a block is closed in a line of its own. -/
def lead (s : BufferStep) (b : CodeBuffer) : CodeBuffer :=
  match s with
  | closeBlock => b.finishLine
  | _ => b

def drawLead (s : BufferStep) (p : Outline) : Outline :=
  match s with
  | closeBlock => p.finishLine
  | _ => p

theorem draws_lead {p : Outline} {b : CodeBuffer} (h : Draws p b) (s : BufferStep) :
    Draws (s.drawLead p) (s.lead b) := by
  cases s with
  | closeBlock => exact h.finishLine
  | _ => exact h

/-- The lines after a step are those before it, gone on with, and one that the step has begun. -/
theorem getElem?_draw {style : QuoteStyle} {s : BufferStep} {p : Outline} {i : Nat} {l : Line}
    (h : (s.draw style p).lines[i]? = some l) (nonempty : l.text ≠ []) :
    p.Continues i l ∨ ((s.drawLead p).current.text = [] ∧ (s.drawLead p).finished.length = i ∧
      l = s.piece style p.level) := by
  cases s with
  | write | quote | literal | writeRaw => exact Outline.getElem?_put h nonempty
  | newline => exact Or.inl (.refl (Outline.getElem?_newline h nonempty) nonempty)
  | finishLine => exact Or.inl (.refl (Outline.getElem?_finishLine h nonempty) nonempty)
  | blankLine => exact Or.inl (.refl (Outline.getElem?_blankLine h nonempty) nonempty)
  | openBlock => exact Outline.getElem?_put (Outline.getElem?_newline h nonempty) nonempty
  | closeBlock =>
      refine (Outline.getElem?_put h nonempty).imp_left fun ⟨first, there, begun, continued⟩ => ?_
      exact ⟨first, Outline.getElem?_finishLine there begun, begun, continued⟩
  | indent | dedent => exact Or.inl (.refl h nonempty)

end BufferStep

/-- Every line of a run that is not empty has been begun by one of the steps. -/
theorem Outline.begun_of_run {style : QuoteStyle} (steps : List BufferStep) {i : Nat} {l : Line}
    (h : (run style steps).lines[i]? = some l) (nonempty : l.text ≠ []) :
    ∃ (before : List BufferStep) (s : BufferStep) (after : List BufferStep),
      steps = before ++ s :: after ∧
      (s.drawLead (run style before)).current.text = [] ∧
      (s.drawLead (run style before)).finished.length = i ∧
      (s.piece style (run style before).level).level = l.level ∧
      (s.piece style (run style before).level).text ≠ [] ∧
      (s.piece style (run style before).level).text <+: l.text := by
  induction steps using List.reverseRecOn generalizing l with
  | nil =>
      cases i with
      | zero => exact absurd (congrArg Line.text (Option.some.inj h)).symm nonempty
      | succ i => cases h
  | append_singleton steps s ih =>
      rw [run_snoc] at h
      rcases BufferStep.getElem?_draw h nonempty with ⟨first, there, begun, level, goesOn⟩ | ⟨start, here, rfl⟩
      · obtain ⟨before, t, after, split, start, here, same, some, begins⟩ := ih there begun
        refine ⟨before, t, after ++ [s], ?_, start, here, same.trans level, some, begins.trans goesOn⟩
        rw [split, List.append_assoc, List.cons_append]
      · exact ⟨steps, s, [], rfl, start, here, rfl, nonempty, List.prefix_rfl⟩

/-! ## Runs -/

/-- Whatever is written in whatever order, a buffer holds lines that depend on the steps and on the
style of the quotation marks alone, with line ends between them. A line that is not empty has the level
that the buffer had when its first text was written, or none if that was finished code: `i` line ends
were there at that time, and the buffer was at the start of a line. A second blank line right after a
first one changes nothing, and neither does one in an empty buffer. -/
theorem lines_of_run (style : QuoteStyle) (steps : List BufferStep) (plain : ∀ s ∈ steps, s.IsPlain) :
    ∃ lines : List Line, (∀ l ∈ lines, '\n' ∉ l.text) ∧
      ∀ o : WriterOptions, o.quoteStyle = style →
        ((CodeBuffer.new o).run steps).chars = joinLines o lines ∧
        (∀ (i : Nat) (l : Line), lines[i]? = some l → l.text ≠ [] →
          ∃ (before : List BufferStep) (s : BufferStep) (after : List BufferStep),
            steps = before ++ s :: after ∧
            (s.lead ((CodeBuffer.new o).run before)).atLineStart = true ∧
            (s.lead ((CodeBuffer.new o).run before)).chars.count '\n' = i ∧
            (s.piece style ((CodeBuffer.new o).run before).level).level = l.level ∧
            (s.piece style ((CodeBuffer.new o).run before).level).text ≠ [] ∧
            (s.piece style ((CodeBuffer.new o).run before).level).text <+: l.text) ∧
        ((CodeBuffer.new o).run steps).blankLine.blankLine = ((CodeBuffer.new o).run steps).blankLine ∧
        (((CodeBuffer.new o).run steps).isEmpty = true →
          ((CodeBuffer.new o).run steps).blankLine = (CodeBuffer.new o).run steps) := by
  refine ⟨(Outline.run style steps).lines, ?_, ?_⟩
  · exact (draws_run { quoteStyle := style } steps plain).1.oneLine
  rintro o rfl
  obtain ⟨drawn, options⟩ := draws_run o steps plain
  refine ⟨?_, ?_, ?_, fun empty => if_pos empty⟩
  · rw [drawn.chars, options]
  · intro i l there nonempty
    obtain ⟨before, s, after, rfl, start, here, level, some, begins⟩ :=
      Outline.begun_of_run steps there nonempty
    have earlier := (draws_run o before fun t ht => plain t (List.mem_append_left _ ht)).1
    have led := BufferStep.draws_lead earlier s
    rw [← earlier.level] at level some begins
    exact ⟨before, s, after, rfl, led.atLineStart_iff.mpr start, led.count_lineFeed.trans here, level, some,
      begins⟩
  · have twice := drawn.blankLine.blankLine
    rw [Outline.blankLine_blankLine] at twice
    have same (b : CodeBuffer) : b.blankLine.options = b.options := BufferStep.options_apply .blankLine b
    refine CodeBuffer.eq_of_chars (same _) ?_ (twice.level.trans drawn.blankLine.level.symm)
    rw [twice.chars, drawn.blankLine.chars, same]

/-- A block is closed that has not been opened, a line ends in a carriage return, and an empty line is
asked for twice. -/
theorem lines_of_unbalanced_run :
    ∃ lines : List Line, (∀ l ∈ lines, '\n' ∉ l.text) ∧
      joinLines { lineEnd := .lf } lines = "\x7da\r\n\n\x7b\n  b\nc\n\x7d".toList ∧
      joinLines { lineEnd := .crlf, useTabs := true } lines
        = "\x7da\r\r\n\r\n\x7b\r\n\tb\r\nc\r\n\x7d".toList := by
  obtain ⟨lines, oneLine, same⟩ := lines_of_run .single
    [.closeBlock, .write "a\r", .blankLine, .blankLine, .openBlock, .write "b", .newline, .writeRaw "c",
      .closeBlock]
    (by simp [BufferStep.IsPlain])
  refine ⟨lines, oneLine, ?_, ?_⟩
  · rw [← (same { lineEnd := .lf } rfl).1]
    decide
  · rw [← (same { lineEnd := .crlf, useTabs := true } rfl).1]
    decide

end Viewsmith
