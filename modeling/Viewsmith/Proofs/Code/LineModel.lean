import Mathlib.Data.List.Basic
import Viewsmith.Proofs.Code.GeneratedLines

/-!
# Files as lines

Every line of a generated file stays on its line and is not indented by itself. So the lines of a
file are the same however they are indented and ended, and a file with another line end differs in
nothing but its line ends.
-/

namespace Viewsmith

/-! ## Texts of lines -/

/-- Whether a text begins with a character that is neither a space nor a tab. -/
def StartsVisibly (text : List Char) : Prop := text.head?.any (fun c => c != ' ' && c != '\t') = true

instance (text : List Char) : Decidable (StartsVisibly text) :=
  inferInstanceAs (Decidable (_ = true))

theorem startsVisibly_iff {text : List Char} :
    StartsVisibly text ↔ ∃ c, text.head? = some c ∧ c ≠ ' ' ∧ c ≠ '\t' := by
  simp [StartsVisibly, Option.any_eq_true]

theorem startsVisibly_cons {c : Char} {rest : List Char} (space : c ≠ ' ') (tab : c ≠ '\t') :
    StartsVisibly (c :: rest) :=
  startsVisibly_iff.mpr ⟨c, rfl, space, tab⟩

theorem StartsVisibly.append {text : List Char} (h : StartsVisibly text) (more : List Char) :
    StartsVisibly (text ++ more) := by
  rw [startsVisibly_iff] at h ⊢
  obtain ⟨c, first, visible⟩ := h
  refine ⟨c, ?_, visible⟩
  rw [List.head?_append, first, Option.some_or]

/-- Whether a line's text stays on the line, and is indented by its level alone. -/
structure Line.IsFlush (l : Line) : Prop where
  oneLine : IsOneLine l.text
  noSpace : l.text.head? ≠ some ' '
  noTab : l.text.head? ≠ some '\t'

theorem Line.isFlush_empty (level : Nat) : Line.IsFlush ⟨level, []⟩ where
  oneLine := ⟨List.not_mem_nil, List.not_mem_nil⟩
  noSpace := by simp
  noTab := by simp

theorem Line.isFlush_of_closed {level : Nat} {text : List Char} (visible : StartsVisibly text)
    (oneLine : IsOneLine text) : Line.IsFlush ⟨level, text⟩ := by
  obtain ⟨c, first, space, tab⟩ := startsVisibly_iff.mp visible
  constructor
  · exact oneLine
  · rw [first]
    simpa using space
  · rw [first]
    simpa using tab

theorem Line.isFlush_of_start {level : Nat} {start rest : List Char} (visible : StartsVisibly start)
    (first : IsOneLine start) (second : IsOneLine rest) : Line.IsFlush ⟨level, start ++ rest⟩ :=
  isFlush_of_closed (visible.append rest) (isOneLine_append.mpr ⟨first, second⟩)

/-! ## Elements -/

variable {keyOf : Node → Option String}

/-- The lines of a node's element are flush if those of its children are. -/
theorem isFlush_element_step (keys : ∀ n, ∀ k ∈ keyOf n, IsOneLine k.toList) (q : QuoteStyle)
    {n : Node} {level : Nat}
    (below : ∀ l ∈ Element.rowLines q (level + 1) (Node.elements keyOf n.children), l.IsFlush) :
    ∀ l ∈ (n.element keyOf).lines q level, l.IsFlush := by
  have reference := isOneLine_styleAttribute (keys n)
  have view : StartsVisibly "<View".toList ∧ IsOneLine "<View".toList := by decide
  have text : StartsVisibly "<Text".toList ∧ IsOneLine "<Text".toList := by decide
  rw [Node.element_eq]
  cases n.kind.isContainer with
  | false =>
      have tail : IsOneLine ("\x7d</Text>".toList) := by decide
      rw [if_neg Bool.false_ne_true, Element.lines, List.forall_mem_singleton]
      simp only [List.append_assoc]
      refine Line.isFlush_of_start text.1 text.2 ?_
      simp only [isOneLine_append]
      exact ⟨reference, by decide, isOneLine_stringLiteral _ _, tail⟩
  | true =>
      rw [if_pos rfl, Element.lines]
      simp only [List.append_assoc]
      split
      · rw [List.forall_mem_singleton]
        exact Line.isFlush_of_start view.1 view.2 (isOneLine_append.mpr ⟨reference, by decide⟩)
      · rw [List.forall_mem_cons, List.forall_mem_append, List.forall_mem_singleton]
        exact ⟨Line.isFlush_of_start view.1 view.2
          (isOneLine_append.mpr ⟨reference, by decide⟩), below,
          Line.isFlush_of_closed (by decide) (by decide)⟩

mutual
theorem isFlush_element (keys : ∀ n, ∀ k ∈ keyOf n, IsOneLine k.toList) (q : QuoteStyle) :
    ∀ (n : Node) (level : Nat), ∀ l ∈ (n.element keyOf).lines q level, l.IsFlush
  | ⟨_, _, _, _, children, _, _⟩, level =>
      isFlush_element_step keys q (isFlush_elements keys q children (level + 1))

theorem isFlush_elements (keys : ∀ n, ∀ k ∈ keyOf n, IsOneLine k.toList) (q : QuoteStyle) :
    ∀ (nodes : List Node) (level : Nat),
      ∀ l ∈ Element.rowLines q level (Node.elements keyOf nodes), l.IsFlush
  | [], level => by
      rw [Node.elements, Element.rowLines]
      exact List.forall_mem_nil _
  | n :: rest, level => by
      rw [Node.elements, Element.rowLines, List.forall_mem_append]
      exact ⟨isFlush_element keys q n level, isFlush_elements keys q rest level⟩
end

/-! ## Statements, functions and tables -/

theorem isFlush_importLines (q : QuoteStyle) (options : ComponentOptions) (design : Design) :
    ∀ l ∈ importLines q (design.importedNames options), l.IsFlush := by
  intro l hl
  obtain ⟨p, -, rfl⟩ := List.mem_map.mp hl
  have names : IsOneLine (", ".intercalate (design.importedNames options p)).toList := by
    cases p with
    | react =>
        simp only [Design.importedNames]
        split_ifs <;> decide
    | reactNative =>
        simp only [Design.importedNames]
        split_ifs <;> decide
  simp only [importLine, List.append_assoc]
  refine Line.isFlush_of_start (by decide) (by decide) ?_
  simp only [isOneLine_append]
  exact ⟨names, by decide, isOneLine_stringLiteral _ _, by decide⟩

theorem isFlush_headerLine (options : ComponentOptions) (design : Design) :
    (design.headerLine options).IsFlush := by
  have keywords : StartsVisibly options.exportStyle.keywords.toList := by
    cases options.exportStyle <;> decide
  rw [Design.headerLine, List.append_assoc]
  refine Line.isFlush_of_start keywords (isOneLine_keywords _) ?_
  rw [isOneLine_append]
  exact ⟨isOneLine_pascalName _, by decide⟩

theorem isFlush_hookLine (q : QuoteStyle) (e : StateEntry) : (hookLine q e).IsFlush := by
  simp only [hookLine, List.append_assoc]
  refine Line.isFlush_of_start (by decide) (by decide) ?_
  simp only [isOneLine_append]
  exact ⟨isOneLine_camelName _, by decide, isOneLine_camelName _, by decide,
    isOneLine_codeText_written _ _, by decide⟩

theorem isFlush_functionLines (options : ComponentOptions) (q : QuoteStyle) (design : Design)
    (keys : ∀ n, ∀ k ∈ keyOf n, IsOneLine k.toList) :
    ∀ l ∈ design.functionLines options q keyOf, l.IsFlush := by
  apply Design.forall_mem_functionLines
  · exact isFlush_headerLine options design
  · exact isFlush_hookLine q
  · exact Line.isFlush_of_closed (by decide) (by decide)
  · exact isFlush_element keys q design.root 2
  · exact Line.isFlush_of_closed (by decide) (by decide)
  · exact Line.isFlush_of_closed (by decide) (by decide)

theorem isFlush_declarationLine (q : QuoteStyle) (d : String × Literal) :
    (declarationLine q (d.1, d.2.written)).IsFlush := by
  obtain ⟨c, rest, shape, space, tab⟩ := exists_cons_propertyText q d.1
  have visible : StartsVisibly (propertyText q d.1) := by
    rw [shape]
    exact startsVisibly_cons space tab
  simp only [declarationLine, List.append_assoc]
  refine Line.isFlush_of_start visible (isOneLine_propertyText q d.1) ?_
  simp only [isOneLine_append]
  exact ⟨by decide, isOneLine_codeText_written _ _, by decide⟩

theorem isFlush_entryLines (q : QuoteStyle) (label : String) (number : Nat)
    (ds : List (String × Literal)) :
    ∀ l ∈ entryLines q ⟨entryKey label number, written ds⟩, l.IsFlush := by
  obtain ⟨c, rest, shape, ident⟩ := exists_cons_entryKey label number
  have visible : StartsVisibly (entryKey label number).toList := by
    rw [shape]
    refine startsVisibly_cons ?_ ?_
    · rintro rfl
      exact absurd ident (by decide)
    · rintro rfl
      exact absurd ident (by decide)
  apply forall_mem_entryLines
  · exact Line.isFlush_of_start visible (isOneLine_entryKey label number) (by decide)
  · intro d hd
    obtain ⟨source, -, rfl⟩ := List.mem_map.mp hd
    exact isFlush_declarationLine q source
  · exact Line.isFlush_of_closed (by decide) (by decide)

theorem isFlush_tableLines (q : QuoteStyle) (options : ComponentOptions) (design : Design) :
    ∀ l ∈ tableLines q (design.styling options).table, l.IsFlush := by
  apply forall_mem_tableLines
  · exact Line.isFlush_of_closed (by decide) (by decide)
  · exact Line.isFlush_of_closed (by decide) (by decide)
  · intro e he
    obtain ⟨number, hn, rfl⟩ := List.mem_mapIdx.mp he
    obtain ⟨n, -, declarations⟩ := List.mem_map.mp (mem_styleSets.mp (List.getElem_mem hn)).1
    rw [← declarations]
    exact isFlush_entryLines q options.stylePrefix number _
  · exact Line.isFlush_of_closed (by decide) (by decide)

/-- Every line of a source file is flush. -/
theorem isFlush_sourceLines (options : ComponentOptions) (q : QuoteStyle) (design : Design) :
    ∀ l ∈ design.sourceLines options q, l.IsFlush := by
  have blank : ∀ l ∈ [Line.mk 0 []], l.IsFlush := by
    rw [List.forall_mem_singleton]
    exact Line.isFlush_empty 0
  have statements := isFlush_importLines q options design
  have keys : ∀ n, ∀ k ∈ (design.styling options).keyOf n, IsOneLine k.toList :=
    fun _ => isOneLine_keyIn
  have function := isFlush_functionLines options q design keys
  rw [Design.sourceLines]
  simp only [List.forall_mem_append]
  refine ⟨⟨⟨?_, function⟩, blank⟩, isFlush_tableLines q options design⟩
  split
  · exact List.forall_mem_nil _
  · rw [List.forall_mem_append]
    exact ⟨statements, blank⟩

/-! ## Line ends -/

/-- The characters of a text with every line feed turned into a carriage return and a line feed. -/
def withCarriageReturns (text : List Char) : List Char :=
  text.flatMap fun c => if c = '\n' then ['\r', '\n'] else [c]

theorem withCarriageReturns_append (s t : List Char) :
    withCarriageReturns (s ++ t) = withCarriageReturns s ++ withCarriageReturns t := by
  simp [withCarriageReturns]

theorem withCarriageReturns_of_notMem : ∀ {text : List Char}, '\n' ∉ text →
    withCarriageReturns text = text
  | [], _ => rfl
  | c :: rest, h => by
      rw [List.mem_cons, not_or] at h
      rw [← List.singleton_append, withCarriageReturns_append, withCarriageReturns_of_notMem h.2]
      simp [withCarriageReturns, Ne.symm h.1]

theorem withCarriageReturns_layOut (o : WriterOptions) {l : Line} (flush : l.IsFlush) :
    withCarriageReturns (l.layOut { o with lineEnd := .lf }) = l.layOut { o with lineEnd := .crlf } := by
  have ending : withCarriageReturns LineEnd.lf.text.toList = LineEnd.crlf.text.toList := by
    rw [LineEnd.chars_lf, LineEnd.chars_crlf]
    rfl
  rw [Line.layOut, Line.layOut]
  split
  · exact ending
  · rw [withCarriageReturns_append, withCarriageReturns_append,
      withCarriageReturns_of_notMem (lineFeed_notMem_indentation _ _),
      withCarriageReturns_of_notMem flush.oneLine.1, ending]
    rfl

theorem withCarriageReturns_layOutLines (o : WriterOptions) : ∀ {lines : List Line},
    (∀ l ∈ lines, l.IsFlush) →
      withCarriageReturns (layOutLines { o with lineEnd := .lf } lines)
        = layOutLines { o with lineEnd := .crlf } lines
  | [], _ => rfl
  | l :: rest, flush => by
      rw [List.forall_mem_cons] at flush
      rw [layOutLines_cons, layOutLines_cons, withCarriageReturns_append,
        withCarriageReturns_layOut o flush.1, withCarriageReturns_layOutLines o flush.2]

/-! ## Files -/

/-- A generated file is the lines of its design laid out. No text of a line holds a line break or
begins with a space or a tab, and the lines are the same whatever else the settings of the writer say
beside the quotes. So a file with carriage returns differs from one without in its line ends alone. -/
theorem lines_of_generate {settings : Settings} {design : Design} {code : String}
    (h : (generate settings design).result = .ok code) :
    let lines := design.sourceLines settings.component settings.writer.quoteStyle
    code = String.ofList (layOutLines settings.writer lines) ∧
      (∀ l ∈ lines, '\n' ∉ l.text ∧ '\r' ∉ l.text ∧ l.text.head? ≠ some ' ' ∧
        l.text.head? ≠ some '\t') ∧
      (∀ w : WriterOptions, w.quoteStyle = settings.writer.quoteStyle →
        (generate { settings with writer := w } design).result
          = .ok (String.ofList (layOutLines w lines))) ∧
      ∃ lf crlf : String,
        (generate { settings with writer := { settings.writer with lineEnd := .lf } } design).result
            = .ok lf ∧
          (generate { settings with writer := { settings.writer with lineEnd := .crlf } } design).result
            = .ok crlf ∧
          crlf.toList = withCarriageReturns lf.toList := by
  intro lines
  have flush := isFlush_sourceLines settings.component settings.writer.quoteStyle design
  have result := result_generate settings design
  rw [h] at result
  cases invalid : (design.renderedNodes settings.component).findSome?
      (Node.invalidStyle? settings.component) with
  | some e =>
      rw [invalid] at result
      cases result
  | none =>
      rw [invalid] at result
      have layout (w : WriterOptions) (quotes : w.quoteStyle = settings.writer.quoteStyle) :
          (generate { settings with writer := w } design).result
            = .ok (String.ofList (layOutLines w lines)) := by
        rw [result_generate, invalid, quotes]
      refine ⟨Except.ok.inj result, ?_, layout, _, _, layout _ rfl, layout _ rfl, ?_⟩
      · intro l hl
        obtain ⟨oneLine, space, tab⟩ := flush l hl
        exact ⟨oneLine.1, oneLine.2, space, tab⟩
      · rw [String.toList_ofList, String.toList_ofList]
        exact (withCarriageReturns_layOutLines settings.writer flush).symm

/-- The file of the card is its lines. -/
theorem lines_of_card :
    (generate {} cardDesign).result = .ok (String.ofList (layOutLines {} cardLines)) ∧
      String.ofList (layOutLines {} cardLines)
        = String.ofList (layOutLines {} (cardDesign.sourceLines {} .single)) := by
  have lines := lines_of_generate generate_card
  exact ⟨generate_card, lines.1⟩

/-- An empty component returns nothing: no lines that hold the start of a return are its file. -/
theorem blank_returns_nothing :
    (generate {} (Design.new (Node.new .component "Blank"))).result
        = .ok "export function Blank() \x7b\n\x7d\n\nconst styles = \x7b\x7d;\n" ∧
      ∀ lines : List Line, ⟨1, "return (".toList⟩ ∈ lines →
        (generate {} (Design.new (Node.new .component "Blank"))).result
          ≠ .ok (String.ofList (layOutLines {} lines)) := by
  have generated : (generate {} (Design.new (Node.new .component "Blank"))).result
      = .ok "export function Blank() \x7b\n\x7d\n\nconst styles = \x7b\x7d;\n" := by
    decide
  refine ⟨generated, fun lines returned same => ?_⟩
  rw [generated, Except.ok.injEq, ← String.toList_inj, String.toList_ofList,
    String.toList_ofList] at same
  have inside : Line.layOut {} ⟨1, "return (".toList⟩ <:+: layOutLines {} lines := by
    obtain ⟨before, after, rfl⟩ := List.append_of_mem returned
    exact ⟨layOutLines {} before, layOutLines {} after, by simp⟩
  rw [← same] at inside
  exact absurd inside (by decide)

end Viewsmith
