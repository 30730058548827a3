import Mathlib.Data.List.Basic
import Viewsmith.Proofs.Code.LineModel
import Viewsmith.Proofs.Reading.Markup

/-!
# Generated markup reads back

The markup of a generated file stands between the line that begins the return of its component and
the line that ends it. Read as markup it is the element of the root, whatever the names and contents
of the nodes and however the file is laid out (`markup_of_generate`).
-/

namespace Viewsmith

/-! ## The region of the markup -/

def isLineOf (token : String) (line : List Char) : Bool :=
  match readToken token (skipLayout line) with
  | some rest => (skipLayout rest).isEmpty
  | none => false

/-- The text between the first line that is `return (` and the next one that is `);`. -/
def markupRegion (code : List Char) : List Char :=
  let lines := code.splitOn '\n'
  let after := (lines.dropWhile fun line => !isLineOf "return (" line).drop 1
  let inside := after.takeWhile fun line => !isLineOf ");" line
  inside.flatMap fun line => line ++ ['\n']

/-! ## Lines of a text -/

/-- A line as it is laid out, without the line feed that ends it. -/
def Line.unended (o : WriterOptions) (l : Line) : List Char := (l.layOut o).dropLast

theorem Line.layOut_eq_unended (o : WriterOptions) (l : Line) :
    l.layOut o = l.unended o ++ ['\n'] := by
  rw [unended]
  exact (List.dropLast_append_getLast? '\n' (l.getLast?_layOut o)).symm

theorem Line.unended_eq (o : WriterOptions) (l : Line) :
    l.unended o = (if l.text = [] then [] else o.indentation l.level ++ l.text)
      ++ o.lineEnd.text.toList.dropLast := by
  have ending : o.lineEnd.text.toList ≠ [] := o.lineEnd.chars_ne_nil
  rw [unended, layOut]
  split
  · rfl
  · rw [List.dropLast_append_of_ne_nil ending]

theorem isBlank_lineEnd_dropLast (o : WriterOptions) : IsBlank o.lineEnd.text.toList.dropLast := by
  intro c hc
  exact isBlank_lineEnd o c (List.dropLast_subset _ hc)

theorem lineFeed_notMem_lineEnd_dropLast (o : WriterOptions) :
    '\n' ∉ o.lineEnd.text.toList.dropLast := by
  cases o.lineEnd <;> decide

theorem lineFeed_notMem_unended (o : WriterOptions) {l : Line} (flush : l.IsFlush) :
    '\n' ∉ l.unended o := by
  rw [Line.unended_eq, List.mem_append, not_or]
  refine ⟨?_, lineFeed_notMem_lineEnd_dropLast o⟩
  split
  · exact List.not_mem_nil
  · rw [List.mem_append, not_or]
    exact ⟨lineFeed_notMem_indentation o l.level, flush.oneLine.1⟩

/-- Cut at its line feeds, a file falls into its lines. -/
theorem splitOn_layOutLines (o : WriterOptions) : ∀ {lines : List Line},
    (∀ l ∈ lines, l.IsFlush) →
      (layOutLines o lines).splitOn '\n' = lines.map (Line.unended o) ++ [[]]
  | [], _ => rfl
  | l :: rest, flush => by
      rw [List.forall_mem_cons] at flush
      rw [layOutLines_cons, l.layOut_eq_unended, List.append_assoc, List.singleton_append,
        List.splitOn_append_cons_self_of_not_mem (lineFeed_notMem_unended o flush.1),
        splitOn_layOutLines o flush.2]
      rfl

theorem flatMap_unended (o : WriterOptions) (lines : List Line) :
    (lines.map (Line.unended o)).flatMap (fun line => line ++ ['\n']) = layOutLines o lines := by
  rw [List.flatMap_map, layOutLines]
  simp only [← Line.layOut_eq_unended]

/-- What is left of a line after its layout. -/
theorem skipLayout_unended (o : WriterOptions) {l : Line} (flush : l.IsFlush) :
    skipLayout (l.unended o)
      = if l.text = [] then [] else l.text ++ o.lineEnd.text.toList.dropLast := by
  rw [Line.unended_eq]
  split
  · rw [List.nil_append]
    exact skipLayout_of_isBlank (isBlank_lineEnd_dropLast o)
  · rename_i nonempty
    obtain ⟨c, rest, text⟩ := List.exists_cons_of_ne_nil nonempty
    have space : c ≠ ' ' := by
      rintro rfl
      exact flush.noSpace (by rw [text]; rfl)
    have tab : c ≠ '\t' := by
      rintro rfl
      exact flush.noTab (by rw [text]; rfl)
    have lf : c ≠ '\n' := by
      rintro rfl
      exact flush.oneLine.1 (by rw [text]; exact List.mem_cons_self)
    have cr : c ≠ '\r' := by
      rintro rfl
      exact flush.oneLine.2 (by rw [text]; exact List.mem_cons_self)
    have visible : isLayout c = false := by simp [isLayout, space, tab, lf, cr]
    rw [List.append_assoc]
    refine skipLayout_append (c := c) (isBlank_indentation o l.level) ?_ visible
    rw [text]
    rfl

theorem isLineOf_unended_self (o : WriterOptions) {token : String} (nonempty : token.toList ≠ [])
    {level : Nat} (flush : Line.IsFlush ⟨level, token.toList⟩) :
    isLineOf token (Line.unended o ⟨level, token.toList⟩) = true := by
  rw [isLineOf, skipLayout_unended o flush, if_neg nonempty, readToken_append]
  simp only [skipLayout_of_isBlank (isBlank_lineEnd_dropLast o), List.isEmpty_nil]

/-- After its layout a line begins as its text does, if it has one. -/
theorem head?_skipLayout_unended (o : WriterOptions) {l : Line} (flush : l.IsFlush) {c : Char}
    (other : l.text.head? ≠ some c) : (skipLayout (l.unended o)).head? ≠ some c := by
  rw [skipLayout_unended o flush]
  split
  · simp
  · rename_i nonempty
    rwa [List.head?_append_of_ne_nil _ nonempty]

/-- A line that begins otherwise than a token is not that token. -/
theorem isLineOf_unended_of_head (o : WriterOptions) {token : String} {c : Char}
    (first : token.toList.head? = some c) {l : Line} (flush : l.IsFlush)
    (other : l.text.head? ≠ some c) : isLineOf token (l.unended o) = false := by
  rw [isLineOf, readToken_of_head first (head?_skipLayout_unended o flush other)]

/-! ## The region of a file -/

/-- In a file whose other lines begin otherwise, the region is what stands between the two lines. -/
theorem markupRegion_layOutLines (o : WriterOptions) {before inside after : List Line}
    (flush : ∀ l ∈ before ++ ⟨1, "return (".toList⟩ :: (inside ++ ⟨1, ");".toList⟩ :: after), l.IsFlush)
    (before_head : ∀ l ∈ before, l.text.head? ≠ some 'r')
    (inside_head : ∀ l ∈ inside, l.text.head? ≠ some ')') :
    markupRegion (layOutLines o
        (before ++ ⟨1, "return (".toList⟩ :: (inside ++ ⟨1, ");".toList⟩ :: after)))
      = layOutLines o inside := by
  have opening : "return (".toList.head? = some 'r' := by decide
  have closing : ");".toList.head? = some ')' := by decide
  rw [markupRegion, splitOn_layOutLines o flush]
  simp only [List.forall_mem_append, List.forall_mem_cons] at flush
  obtain ⟨flushBefore, flushReturn, flushInside, flushClose, -⟩ := flush
  have skipped : ∀ line ∈ before.map (Line.unended o), (!isLineOf "return (" line) = true := by
    intro line hline
    obtain ⟨l, hl, rfl⟩ := List.mem_map.mp hline
    rw [isLineOf_unended_of_head o opening (flushBefore l hl) (before_head l hl)]
    rfl
  have kept : ∀ line ∈ inside.map (Line.unended o), (!isLineOf ");" line) = true := by
    intro line hline
    obtain ⟨l, hl, rfl⟩ := List.mem_map.mp hline
    rw [isLineOf_unended_of_head o closing (flushInside l hl) (inside_head l hl)]
    rfl
  have returns : ¬ (!isLineOf "return (" (Line.unended o ⟨1, "return (".toList⟩)) = true := by
    rw [isLineOf_unended_self o (by decide) flushReturn]
    decide
  have closes : ¬ (!isLineOf ");" (Line.unended o ⟨1, ");".toList⟩)) = true := by
    rw [isLineOf_unended_self o (by decide) flushClose]
    decide
  simp only [List.map_append, List.map_cons, List.append_assoc, List.cons_append]
  -- The predicates are given: by unification alone they would be taken to be the negation.
  rw [List.dropWhile_append_of_pos skipped,
    List.dropWhile_cons_of_neg (p := fun line => !isLineOf "return (" line) returns, List.drop_one,
    List.tail_cons, List.takeWhile_append_of_pos kept,
    List.takeWhile_cons_of_neg (p := fun line => !isLineOf ");" line) closes, List.append_nil,
    flatMap_unended]

/-! ## Reading a file -/

theorem isReadableKey_keyAmong (options : ComponentOptions) (nodes : List Node) (n : Node) :
    IsReadableKey (n.keyAmong options nodes) := by
  intro k hk brace
  rw [Node.keyAmong, keyIn] at hk
  split at hk
  · cases hk
  · rw [Option.mem_some] at hk
    rw [← hk] at brace
    exact absurd (mem_entryKey brace) (by decide)

/-- Of a component that is shown, the file falls into the lines before the return, the markup and the
lines after it. -/
theorem returned_sourceLines {options : ComponentOptions} (q : QuoteStyle) {design : Design}
    (shown : ¬ design.root.isEmptyComponent options = true) :
    ∃ before after : List Line, (∀ l ∈ before, l.text.head? ≠ some 'r') ∧
      design.sourceLines options q = before ++ ⟨1, "return (".toList⟩ ::
        ((design.root.element (design.styling options).keyOf).lines q 2
          ++ ⟨1, ");".toList⟩ :: after) := by
  have hooks : ∀ l ∈ (design.rootState.getD []).map (hookLine q), l.text.head? ≠ some 'r' := by
    intro l hl
    obtain ⟨e, -, rfl⟩ := List.mem_map.mp hl
    rw [head?_hookLine]
    decide
  refine ⟨(if importLines q (design.importedNames options) = [] then []
      else importLines q (design.importedNames options) ++ [⟨0, []⟩])
      ++ design.headerLine options :: (design.rootState.getD []).map (hookLine q),
    ⟨0, "\x7d".toList⟩ :: ⟨0, []⟩ :: tableLines q (design.styling options).table, ?_, ?_⟩
  · rw [List.forall_mem_append, List.forall_mem_cons, Design.head?_headerLine]
    exact ⟨head?_of_mem_statements (by decide), by decide, hooks⟩
  · rw [Design.sourceLines_of_shown shown]
    simp only [List.append_assoc, List.cons_append, List.nil_append]

/-- The markup of a generated file reads back: between the line that begins the return and the line
that ends it stands the element of the root, with the keys of its nodes, and nothing else. -/
theorem markup_of_generate {settings : Settings} {design : Design} {code : String}
    (h : (generate settings design).result = .ok code)
    (shown : ¬ design.root.isEmptyComponent settings.component = true) :
    readMarkup (markupRegion code.toList)
      = some (design.root.element (design.styling settings.component).keyOf) := by
  have flush := isFlush_sourceLines settings.component settings.writer.quoteStyle design
  obtain ⟨before, after, plain, lines⟩ :=
    returned_sourceLines settings.writer.quoteStyle shown
  have tags : ∀ l ∈ (design.root.element (design.styling settings.component).keyOf).lines
      settings.writer.quoteStyle 2, l.text.head? ≠ some ')' := by
    intro l hl
    rw [Element.head?_lines settings.writer.quoteStyle _ 2 l hl]
    decide
  rw [lines] at flush
  rw [code_of_generate h, String.toList_ofList, lines,
    markupRegion_layOutLines settings.writer flush plain tags]
  exact readMarkup_layOutLines (isReadableKey_keyAmong settings.component _) design.root 2

/-- The markup of the card's file is the element of the card. -/
theorem markup_of_card :
    ¬ cardDesign.root.isEmptyComponent {} = true ∧
      readMarkup (markupRegion (String.ofList (layOutLines {} cardLines)).toList)
        = some (cardDesign.root.element (cardDesign.styling {}).keyOf) :=
  have shown : ¬ cardDesign.root.isEmptyComponent {} = true := by decide
  ⟨shown, markup_of_generate generate_card shown⟩

end Viewsmith
