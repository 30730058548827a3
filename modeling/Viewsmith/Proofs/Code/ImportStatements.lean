import Mathlib.Data.List.Basic
import Viewsmith.Proofs.Code.GeneratedLines

/-!
# Import statements

A file imports what it uses and nothing else: a name is imported exactly if a state entry or a
rendered node calls for it (`imports_of_generate`). The statements come first, and no other line
looks like one.
-/

namespace Viewsmith

/-! ## Lines that are no statements -/

def Line.IsImport (l : Line) : Prop := "import \x7b".toList <+: l.text

theorem not_isImport_of_head {l : Line} (h : l.text.head? ≠ some 'i') : ¬ l.IsImport :=
  not_prefix_of_head (by decide) h

theorem not_isImport_functionLines (options : ComponentOptions) (q : QuoteStyle)
    (keyOf : Node → Option String) (design : Design) :
    ∀ l ∈ design.functionLines options q keyOf, ¬ l.IsImport := by
  apply Design.forall_mem_functionLines
  · apply not_isImport_of_head
    rw [Design.head?_headerLine]
    decide
  · intro e
    apply not_isImport_of_head
    rw [head?_hookLine]
    decide
  · exact not_isImport_of_head (by decide)
  · intro l hl
    apply not_isImport_of_head
    rw [Element.head?_lines q _ 2 l hl]
    decide
  · exact not_isImport_of_head (by decide)
  · exact not_isImport_of_head (by decide)

theorem not_isImport_tableLines (q : QuoteStyle) (label : String) (sets : List WrittenStyles) :
    ∀ l ∈ tableLines q (numberedEntries label sets), ¬ l.IsImport := by
  refine not_prefix_tableLines (c := '\x7b') (by decide) (by decide) (by decide) ?_ (by decide)
    (by decide) label sets
  cases q <;> decide

/-! ## Imported names -/

def Design.HasState (design : Design) : Prop :=
  ∃ page entries, design.root.page = some page ∧ design.stateFor page design.root.name = some entries ∧
    entries ≠ []

theorem Design.hasState_iff (design : Design) :
    design.HasState ↔ (design.rootState.getD []).isEmpty = false := by
  rw [List.isEmpty_eq_false_iff, rootState]
  constructor
  · rintro ⟨page, entries, hpage, hentries, nonempty⟩
    rw [hpage, Option.bind_some, hentries]
    exact nonempty
  · intro nonempty
    cases page : design.root.page with
    | none =>
        rw [page] at nonempty
        exact absurd rfl nonempty
    | some name =>
        rw [page, Option.bind_some] at nonempty
        cases state : design.stateFor name design.root.name with
        | none =>
            rw [state] at nonempty
            exact absurd rfl nonempty
        | some entries =>
            rw [state] at nonempty
            exact ⟨name, entries, page, state, nonempty⟩

theorem mem_importedNames_react {options : ComponentOptions} {design : Design} {name : String} :
    name ∈ design.importedNames options .react ↔ name = "useState" ∧ design.HasState := by
  rw [Design.hasState_iff, Design.importedNames]
  cases (design.rootState.getD []).isEmpty <;> simp

theorem NodeKind.isContainer_eq_true {kind : NodeKind} : kind.isContainer = true ↔ kind ≠ .text := by
  cases kind <;> decide

theorem mem_importedNames_reactNative {options : ComponentOptions} {design : Design}
    {name : String} :
    name ∈ design.importedNames options .reactNative ↔
      (name = "StyleSheet" ∧ ∃ n ∈ design.renderedNodes options, n.effectiveDeclarations options ≠ []) ∨
        (name = "Text" ∧ ∃ n ∈ design.renderedNodes options, n.kind = .text) ∨
        (name = "View" ∧ ∃ n ∈ design.renderedNodes options, n.kind ≠ .text) := by
  have sheets : ((design.renderedNodes options).any fun n => !(n.effectiveDeclarations options).isEmpty)
      = true ↔ ∃ n ∈ design.renderedNodes options, n.effectiveDeclarations options ≠ [] := by
    simp
  have texts : ((design.renderedNodes options).any fun n => !n.kind.isContainer) = true
      ↔ ∃ n ∈ design.renderedNodes options, n.kind = .text := by
    simp [← Bool.not_eq_true, NodeKind.isContainer_eq_true]
  have views : ((design.renderedNodes options).any fun n => n.kind.isContainer) = true
      ↔ ∃ n ∈ design.renderedNodes options, n.kind ≠ .text := by
    simp [NodeKind.isContainer_eq_true]
  have optional (used : Bool) (symbol : String) :
      name ∈ (if used then [symbol] else []) ↔ name = symbol ∧ used = true := by
    cases used <;> simp
  rw [← sheets, ← texts, ← views]
  simp only [Design.importedNames, List.mem_append, optional, or_assoc]

theorem pairwise_importedNames (options : ComponentOptions) (design : Design) (package : Package) :
    (design.importedNames options package).Pairwise (· < ·) := by
  have sorted : ["StyleSheet", "Text", "View"].Pairwise (· < ·) := by decide
  cases package with
  | react =>
      simp only [Design.importedNames]
      split_ifs <;> simp
  | reactNative =>
      refine sorted.sublist ?_
      simp only [Design.importedNames]
      split_ifs <;> decide

/-! ## Files -/

/-- After the statements comes the line that opens the component function, and no statement more. -/
theorem headed_sourceLines (options : ComponentOptions) (q : QuoteStyle) (design : Design) :
    ∃ rest, (∀ l ∈ rest, ¬ l.IsImport) ∧
      design.sourceLines options q =
        (if importLines q (design.importedNames options) = [] then []
          else importLines q (design.importedNames options) ++ [⟨0, []⟩])
        ++ design.headerLine options :: rest := by
  have function := not_isImport_functionLines options q (design.styling options).keyOf design
  have blank : ∀ l ∈ [Line.mk 0 []], ¬ l.IsImport := by
    rw [List.forall_mem_singleton]
    exact not_isImport_of_head (by decide)
  have table := not_isImport_tableLines q options.stylePrefix
    (nodeSets options (design.renderedNodes options))
  have whole : ∃ rest, design.functionLines options q (design.styling options).keyOf ++ [⟨0, []⟩]
      ++ tableLines q (design.styling options).table = design.headerLine options :: rest := by
    rw [Design.functionLines, List.cons_append, List.cons_append, List.cons_append]
    exact ⟨_, rfl⟩
  obtain ⟨rest, shape⟩ := whole
  refine ⟨rest, ?_, ?_⟩
  · intro l hl
    have inside := List.mem_cons_of_mem (design.headerLine options) hl
    rw [← shape, List.mem_append, List.mem_append] at inside
    rcases inside with (inside | inside) | inside
    · exact function l inside
    · exact blank l inside
    · exact table l inside
  · rw [← shape, Design.sourceLines]
    simp only [List.append_assoc]

theorem importLines_eq_nil {q : QuoteStyle} {names : Package → List String} :
    importLines q names = [] ↔ names .react = [] ∧ names .reactNative = [] := by
  cases react : names .react with
  | nil =>
      cases native : names .reactNative with
      | nil => simp [importLines, Package.all, react, native]
      | cons => simp [importLines, Package.all, react, native]
  | cons => simp [importLines, Package.all, react]

/-- Nothing is imported by an empty component without state. -/
theorem importLines_importedNames_eq_nil {options : ComponentOptions} {q : QuoteStyle}
    {design : Design} :
    importLines q (design.importedNames options) = []
      ↔ design.root.isEmptyComponent options = true ∧ ¬ design.HasState := by
  rw [importLines_eq_nil, List.eq_nil_iff_forall_not_mem, List.eq_nil_iff_forall_not_mem]
  simp only [mem_importedNames_react, mem_importedNames_reactNative]
  constructor
  · rintro ⟨stateless, unrendered⟩
    constructor
    · by_contra shown
      have root : design.root ∈ design.renderedNodes options := by
        rw [Design.renderedNodes, if_neg shown]
        exact design.root.mem_rendered_self
      by_cases text : design.root.kind = .text
      · exact unrendered "Text" (Or.inr (Or.inl ⟨rfl, design.root, root, text⟩))
      · exact unrendered "View" (Or.inr (Or.inr ⟨rfl, design.root, root, text⟩))
    · intro state
      exact stateless "useState" ⟨rfl, state⟩
  · rintro ⟨empty, stateless⟩
    have nothing : design.renderedNodes options = [] := by rw [Design.renderedNodes, if_pos empty]
    rw [nothing]
    constructor
    · rintro name ⟨-, state⟩
      exact stateless state
    · intro name used
      simp at used

theorem layOut_outermost {o : WriterOptions} {text : List Char} (nonempty : text ≠ []) :
    Line.layOut o ⟨0, text⟩ = text ++ o.lineEnd.text.toList := by
  rw [Line.layOut, if_neg nonempty]
  rfl

theorem head?_layOut_importLine (o : WriterOptions) (q : QuoteStyle) (package : Package)
    (names : List String) : ((importLine q package names).layOut o).head? = some 'i' := by
  have head := head?_importLine q package names
  rw [show importLine q package names = ⟨0, (importLine q package names).text⟩ from rfl,
    layOut_outermost (ne_nil_of_head? head), List.head?_append, head, Option.some_or]

/-- A file begins with its function exactly if it has no import statements. -/
theorem keywords_prefix_iff (o : WriterOptions) (options : ComponentOptions) (q : QuoteStyle)
    (design : Design) (names : Package → List String) (rest : List Line) :
    options.exportStyle.keywords.toList <+: layOutLines o
        ((if importLines q names = [] then [] else importLines q names ++ [⟨0, []⟩])
          ++ design.headerLine options :: rest)
      ↔ importLines q names = [] := by
  constructor
  · rintro ⟨more, shape⟩
    by_contra statements
    obtain ⟨first, others, cons⟩ := List.exists_cons_of_ne_nil statements
    have listed : first ∈ importLines q names := by
      rw [cons]
      exact List.mem_cons_self
    obtain ⟨package, -, rfl⟩ := List.mem_map.mp listed
    have heads := congrArg List.head? shape
    rw [if_neg statements, cons, List.cons_append, List.cons_append, layOutLines_cons,
      List.head?_append, List.head?_append, head?_keywords, head?_layOut_importLine] at heads
    exact absurd heads (by simp)
  · intro none
    have nonempty := ne_nil_of_head? (design.head?_headerLine options)
    rw [if_pos none, List.nil_append, layOutLines_cons,
      show design.headerLine options = ⟨0, (design.headerLine options).text⟩ from rfl,
      layOut_outermost nonempty]
    simp only [Design.headerLine, List.append_assoc]
    exact List.prefix_append _ _

/-- A generated file begins with its import statements, each at most once and in the order of their
packages, and no other line begins like one. The names in a statement are in lexicographic order.
`useState` is imported exactly if the root has state entries, and the names of the component library
exactly if a rendered node calls for them. The file begins with its function exactly if the component
is empty and has no state. -/
theorem imports_of_generate {settings : Settings} {design : Design} {code : String}
    (h : (generate settings design).result = .ok code) :
    let nodes := design.renderedNodes settings.component
    ∃ (names : Package → List String) (rest : List Line),
      let statements := importLines settings.writer.quoteStyle names
      code = String.ofList (layOutLines settings.writer
        ((if statements = [] then [] else statements ++ [⟨0, []⟩])
          ++ design.headerLine settings.component :: rest)) ∧
      (∀ l ∈ rest, ¬ l.IsImport) ∧
      (∀ package, (names package).Pairwise (· < ·)) ∧
      (∀ name, name ∈ names .react ↔ name = "useState" ∧ design.HasState) ∧
      (∀ name, name ∈ names .reactNative ↔
        (name = "StyleSheet" ∧ ∃ n ∈ nodes, n.effectiveDeclarations settings.component ≠ []) ∨
          (name = "Text" ∧ ∃ n ∈ nodes, n.kind = .text) ∨
          (name = "View" ∧ ∃ n ∈ nodes, n.kind ≠ .text)) ∧
      (settings.component.exportStyle.keywords.toList <+: code.toList ↔
        design.root.isEmptyComponent settings.component = true ∧ ¬ design.HasState) := by
  intro nodes
  have written := code_of_generate h
  obtain ⟨rest, plain, lines⟩ :=
    headed_sourceLines settings.component settings.writer.quoteStyle design
  rw [lines] at written
  refine ⟨design.importedNames settings.component, rest, written, plain, ?_, ?_, ?_, ?_⟩
  · exact pairwise_importedNames settings.component design
  · intro name
    exact mem_importedNames_react
  · intro name
    exact mem_importedNames_reactNative
  · rw [written, String.toList_ofList, keywords_prefix_iff, importLines_importedNames_eq_nil]

/-- The card imports `useState` for its state entry. -/
theorem imports_of_card :
    (generate {} cardDesign).result = .ok (String.ofList (layOutLines {} cardLines)) ∧
      ∃ (names : Package → List String) (rest : List Line),
        String.ofList (layOutLines {} cardLines) = String.ofList (layOutLines {}
          ((if importLines .single names = [] then [] else importLines .single names ++ [⟨0, []⟩])
            ++ cardDesign.headerLine {} :: rest)) ∧
        ("useState" ∈ names .react ↔ cardDesign.HasState) := by
  obtain ⟨names, rest, code, _, _, react, _⟩ := imports_of_generate generate_card
  refine ⟨generate_card, names, rest, code, ?_⟩
  rw [react]
  simp

end Viewsmith
