import Mathlib.Data.List.Basic
import Viewsmith.Proofs.Code.LineModel
import Viewsmith.Proofs.Design.Descendants
import Viewsmith.Proofs.Reading.LineTexts

/-!
# Counts

The summary of a document counts its nodes with a walk of its own and looks up the state entries of its
root. Neither has anything to do with how code is written, but what they count can be counted in the
generated file as well: a hook begins a line and so does the tag of an element
(`summary_of_generate`). Nodes below a text have no element, and the root of an empty component has
none either.
-/

namespace Viewsmith

/-- How the line of a state hook begins. -/
def hookTokens : List String := ["const ["]

/-- How the first line of an element begins. -/
def elementTokens : List String := ["<View", "<Text"]

theorem head?_hookTokens : ∀ token ∈ hookTokens, token.toList.head? = some 'c' := by
  decide

theorem head?_elementTokens : ∀ token ∈ elementTokens, token.toList.head? = some '<' := by
  decide

/-! ## Elements -/

section

variable {keyOf : Node → Option String} {q : QuoteStyle}

theorem beginsWith_viewTag (rest : List Char) :
    beginsWith elementTokens ("<View".toList ++ rest) = true :=
  beginsWith_eq_true.mpr ⟨"<View", by decide, List.prefix_append _ _⟩

theorem beginsWith_textTag (rest : List Char) :
    beginsWith elementTokens ("<Text".toList ++ rest) = true :=
  beginsWith_eq_true.mpr ⟨"<Text", by decide, List.prefix_append _ _⟩

/-- A node has one tag of its own, whether or not there is another that closes it. -/
theorem countP_element_step {n : Node} {level : Nat}
    (below : (Element.rowLines q (level + 1) (Node.elements keyOf n.children)).countP
        (fun l => beginsWith elementTokens l.text) = (Node.renderedAll n.children).length) :
    ((n.element keyOf).lines q level).countP (fun l => beginsWith elementTokens l.text)
      = n.rendered.length := by
  have closing : beginsWith elementTokens (Line.mk level "</View>".toList).text = false := by
    dsimp only
    decide
  rw [Node.element_eq, Node.rendered_eq, List.length_cons]
  cases n.kind.isContainer with
  | false =>
      rw [if_neg Bool.false_ne_true, if_neg Bool.false_ne_true, Element.lines, List.countP_singleton]
      simp only [List.append_assoc]
      rw [beginsWith_textTag]
      rfl
  | true =>
      rw [if_pos rfl, if_pos rfl, Element.lines]
      simp only [List.append_assoc]
      by_cases childless : (Node.elements keyOf n.children).isEmpty = true
      · have none : n.children = [] := by
          rwa [Node.elements_eq_map, List.isEmpty_map, List.isEmpty_iff] at childless
        rw [if_pos childless, List.countP_singleton, beginsWith_viewTag, none, Node.renderedAll]
        rfl
      · rw [if_neg childless, List.countP_cons, List.countP_append, List.countP_singleton, below,
          beginsWith_viewTag, closing]
        rfl

mutual
/-- The element of a node has as many tags that open as there are rendered nodes. -/
theorem countP_element : ∀ (n : Node) (level : Nat),
    ((n.element keyOf).lines q level).countP (fun l => beginsWith elementTokens l.text)
      = n.rendered.length
  | ⟨_, _, _, _, children, _, _⟩, level =>
      countP_element_step (countP_elements children (level + 1))

theorem countP_elements : ∀ (nodes : List Node) (level : Nat),
    (Element.rowLines q level (Node.elements keyOf nodes)).countP
        (fun l => beginsWith elementTokens l.text)
      = (Node.renderedAll nodes).length
  | [], level => by
      rw [Node.elements, Element.rowLines, Node.renderedAll]
      rfl
  | n :: rest, level => by
      rw [Node.elements, Element.rowLines, Node.renderedAll, List.countP_append, List.length_append,
        countP_element n level, countP_elements rest level]
end

end

/-! ## Lines of a file -/

section

variable (options : ComponentOptions) (q : QuoteStyle) (design : Design)

theorem countP_statements {tokens : List String} {c : Char}
    (heads : ∀ token ∈ tokens, token.toList.head? = some c) (other : c ≠ 'i') :
    (if importLines q (design.importedNames options) = [] then []
        else importLines q (design.importedNames options) ++ [⟨0, []⟩]).countP
      (fun l => beginsWith tokens l.text) = 0 :=
  countP_eq_zero_of_head heads (head?_of_mem_statements other)

theorem countP_hookLines (entries : List StateEntry) :
    (entries.map (hookLine q)).countP (fun l => beginsWith hookTokens l.text) = entries.length := by
  have hooks (e : StateEntry) : beginsWith hookTokens (hookLine q e).text = true := by
    refine beginsWith_eq_true.mpr ⟨"const [", by decide, ?_⟩
    simp only [hookLine, List.append_assoc]
    exact List.prefix_append _ _
  rw [List.countP_map, ← List.length_map (hookLine q), List.length_map, List.countP_eq_length]
  intro e _
  exact hooks e

/-- No line of a style table is taken for a hook or a tag. -/
theorem countP_tableLines {tokens : List String} {c : Char}
    (inside : ∀ token ∈ tokens, c ∈ token.toList) (colonless : ∀ token ∈ tokens, ':' ∉ token.toList)
    (unquoted : ∀ token ∈ tokens, token.toList.head? ≠ some q.char)
    (foreign : continuesKey c = false ∧ ¬ IsIdentifierChar c ∧ c ≠ ' ')
    (fixed : ∀ token ∈ tokens, ∀ text ∈ ["const styles = \x7b\x7d;",
      "const styles = StyleSheet.create(\x7b", "\x7d,", "\x7d);"], ¬ token.toList <+: text.toList) :
    (tableLines q (design.styling options).table).countP (fun l => beginsWith tokens l.text) = 0 := by
  rw [List.countP_eq_zero]
  intro l hl
  rw [Bool.not_eq_true, beginsWith_eq_false]
  intro token hToken
  exact not_prefix_tableLines (inside token hToken) (colonless token hToken) foreign.1
    (unquoted token hToken) foreign.2 (fixed token hToken) _ _ l hl

theorem countP_hooks_tableLines : (tableLines q (design.styling options).table).countP
    (fun l => beginsWith hookTokens l.text) = 0 := by
  refine countP_tableLines options q design (c := '[') (by decide) (by decide) ?_ (by decide)
    (by decide)
  cases q <;> decide

theorem countP_elements_tableLines : (tableLines q (design.styling options).table).countP
    (fun l => beginsWith elementTokens l.text) = 0 := by
  refine countP_tableLines options q design (c := '<') (by decide) (by decide) ?_ (by decide)
    (by decide)
  cases q <;> decide

/-- The lines of a file that begin with hooks are those of the state entries of its root. -/
theorem countP_hooks_sourceLines :
    (design.sourceLines options q).countP (fun l => beginsWith hookTokens l.text)
      = (design.rootState.getD []).length := by
  have statements := countP_statements options q design head?_hookTokens (by decide)
  have header : beginsWith hookTokens (design.headerLine options).text = false :=
    beginsWith_of_head head?_hookTokens (by rw [Design.head?_headerLine]; decide)
  have returned : (design.returnLines options q (design.styling options).keyOf).countP
      (fun l => beginsWith hookTokens l.text) = 0 := by
    apply countP_eq_zero_of_head head?_hookTokens
    rw [Design.returnLines]
    split
    · exact List.forall_mem_nil _
    · rw [List.forall_mem_cons, List.forall_mem_append, List.forall_mem_singleton]
      refine ⟨by decide, ?_, by decide⟩
      intro l hl
      rw [Element.head?_lines q _ 2 l hl]
      decide
  have brace : ¬ beginsWith hookTokens "\x7d".toList = true := by decide
  have blank : ¬ beginsWith hookTokens [] = true := by decide
  rw [Design.sourceLines]
  simp only [List.countP_append, Design.functionLines, List.countP_cons, List.countP_nil, statements,
    header, returned, countP_hookLines, countP_hooks_tableLines, brace, blank]
  simp

/-- The lines of a file that begin with a tag are those of the rendered nodes. -/
theorem countP_elements_sourceLines :
    (design.sourceLines options q).countP (fun l => beginsWith elementTokens l.text)
      = (design.renderedNodes options).length := by
  have statements := countP_statements options q design head?_elementTokens (by decide)
  have header : beginsWith elementTokens (design.headerLine options).text = false :=
    beginsWith_of_head head?_elementTokens (by rw [Design.head?_headerLine]; decide)
  have hooks : ((design.rootState.getD []).map (hookLine q)).countP
      (fun l => beginsWith elementTokens l.text) = 0 := by
    apply countP_eq_zero_of_head head?_elementTokens
    intro l hl
    obtain ⟨e, -, rfl⟩ := List.mem_map.mp hl
    rw [head?_hookLine]
    decide
  have returned : (design.returnLines options q (design.styling options).keyOf).countP
      (fun l => beginsWith elementTokens l.text) = (design.renderedNodes options).length := by
    have opening : beginsWith elementTokens (Line.mk 1 "return (".toList).text = false := by decide
    have closing : beginsWith elementTokens (Line.mk 1 ");".toList).text = false := by decide
    rw [Design.returnLines, Design.renderedNodes]
    split
    · rfl
    · rw [List.countP_cons, List.countP_append, List.countP_singleton, countP_element, opening, closing]
      rfl
  have brace : ¬ beginsWith elementTokens "\x7d".toList = true := by decide
  have blank : ¬ beginsWith elementTokens [] = true := by decide
  rw [Design.sourceLines]
  simp only [List.countP_append, Design.functionLines, List.countP_cons, List.countP_nil, statements,
    header, hooks, returned, countP_elements_tableLines, brace, blank]
  simp

end

/-! ## Summaries -/

theorem countLines_of_generate {settings : Settings} {design : Design} {code : String}
    (h : (generate settings design).result = .ok code) :
    countLines hookTokens code.toList = (design.rootState.getD []).length ∧
      countLines elementTokens code.toList = (design.renderedNodes settings.component).length := by
  have flush := isFlush_sourceLines settings.component settings.writer.quoteStyle design
  rw [code_of_generate h, String.toList_ofList,
    countLines_layOutLines settings.writer flush (by decide),
    countLines_layOutLines settings.writer flush (by decide)]
  exact ⟨countP_hooks_sourceLines _ _ _, countP_elements_sourceLines _ _ _⟩

/-- Nothing is rendered exactly of an empty component, and its root is its only node. Otherwise a node
is rendered, or it is below a text. -/
theorem Design.nodeCount_eq (options : ComponentOptions) (design : Design) :
    ((design.renderedNodes options).length = 0 ↔ design.root.isEmptyComponent options = true) ∧
      design.nodeCount = if (design.renderedNodes options).length = 0 then 1
        else (design.renderedNodes options).length + design.root.coveredCount := by
  rw [renderedNodes]
  by_cases empty : design.root.isEmptyComponent options = true
  · obtain ⟨-, childless, -⟩ := Node.isEmptyComponent_iff.mp empty
    have alone : design.nodeCount = 1 := by
      rw [nodeCount, Node.descendants_eq, Node.preorder_eq, childless, Node.preorderAll]
      rfl
    rw [if_pos empty]
    exact ⟨iff_of_true rfl empty, alone⟩
  · have some : design.root.rendered.length ≠ 0 := by
      rw [Node.rendered_eq]
      exact Nat.succ_ne_zero _
    rw [if_neg empty, if_neg some, nodeCount, Node.length_rendered_add]
    exact ⟨iff_of_false some empty, rfl⟩

/-- The summary of a document from which a file is generated counts what the file holds: the state
entries are the hooks, and the nodes are the elements together with the nodes below texts. Only an empty
component has no element, and it has one node. -/
theorem summary_of_generate {settings : Settings} {design : Design} {code : String}
    (h : (generate settings design).result = .ok code) :
    let hooks := countLines ["const ["] code.toList
    let elements := countLines ["<View", "<Text"] code.toList
    let nodes := if elements = 0 then 1 else elements + design.root.coveredCount
    design.nodeCount = nodes ∧ (design.rootState.getD []).length = hooks ∧
      (elements = 0 ↔ design.root.isEmptyComponent settings.component = true) ∧
      design.summary
        = s!"component '{design.root.name}' on page '" ++ design.root.page.getD "<none>"
          ++ s!"': {nodes} nodes, {hooks} state entries" := by
  intro hooks elements nodes
  obtain ⟨hooked, rendered⟩ := countLines_of_generate h
  have counted : hooks = (design.rootState.getD []).length := hooked
  have written : elements = (design.renderedNodes settings.component).length := rendered
  obtain ⟨empty, count⟩ := design.nodeCount_eq settings.component
  rw [← written] at empty count
  refine ⟨count, counted.symm, empty, ?_⟩
  show s!"component '{design.root.name}' on page '" ++ design.root.page.getD "<none>"
    ++ s!"': {design.nodeCount} nodes, {(design.rootState.getD []).length} state entries" = _
  rw [count, ← counted]

/-- Of the four nodes of the card with nested texts two are elements. -/
theorem summary_of_nested :
    ∃ code, (generate {} nestedDesign).result = .ok code ∧
      countLines ["const ["] code.toList = 2 ∧ countLines ["<View", "<Text"] code.toList = 2 ∧
      nestedDesign.summary = "component 'Card' on page 'Home': 4 nodes, 2 state entries" := by
  have valid : (nestedDesign.renderedNodes {}).findSome? (Node.invalidStyle? {}) = none := by
    decide
  have result := result_of_valid {} nestedDesign valid
  obtain ⟨nodes, hooks, -, -⟩ := summary_of_generate result
  have count : nestedDesign.nodeCount = 4 ∧ nestedDesign.root.coveredCount = 2 := by decide +kernel
  have state : (nestedDesign.rootState.getD []).length = 2 := by decide +kernel
  rw [count.1, count.2] at nodes
  refine ⟨_, result, hooks.symm.trans state, ?_, by decide +kernel⟩
  split at nodes <;> omega

end Viewsmith
