import Mathlib.Data.List.Basic
import Viewsmith.Proofs.Code.Confinement
import Viewsmith.Proofs.Code.StyleMaps

/-!
# What a file depends on

Of a design, its file shows the name of the root, the state of the root and the tree as it is
rendered: the kinds, layout modes and declarations of the nodes and what the texts say. Two designs
that are alike in this have one file (`generate_of_alike`). So the names of other containers, the
pages of other nodes, the characters of containers, the trees below texts, the order of declarations
and the state of other components are all irrelevant.
-/

namespace Viewsmith

/-! ## Trees that are alike -/

mutual
/-- Whether two nodes are rendered alike: nodes of one kind with the same layout mode and the same
declarations, in whatever order, that are containers of nodes rendered alike, or texts that say the
same. -/
def Node.Alike : Node → Node → Prop
  | n@⟨kind, _, _, layout, children, styles, _⟩, m =>
      kind = m.kind ∧ layout = m.layout ∧ styles.entries.Perm m.styles.entries ∧
        if kind.isContainer then Node.AllAlike children m.children else n.content = m.content

def Node.AllAlike : List Node → List Node → Prop
  | [], [] => True
  | n :: rest, m :: more => n.Alike m ∧ Node.AllAlike rest more
  | _, _ => False
end

/-- Whether two designs show the same. -/
structure Design.Alike (a b : Design) : Prop where
  name : a.root.name = b.root.name
  state : a.rootState = b.rootState
  root : a.root.Alike b.root

/-- What a node shows of itself, whatever its children: how it is laid out and what it declares. -/
structure Node.SameFront (n m : Node) : Prop where
  kind : n.kind = m.kind
  layoutClass : n.layoutClass = m.layoutClass
  styles : n.styles.entries.Perm m.styles.entries

namespace Node

theorem alike_iff {n m : Node} :
    n.Alike m ↔ n.kind = m.kind ∧ n.layout = m.layout ∧ n.styles.entries.Perm m.styles.entries ∧
      if n.kind.isContainer then AllAlike n.children m.children else n.content = m.content := by
  cases n
  rw [Alike]

theorem allAlike_nil {row : List Node} : AllAlike [] row ↔ row = [] := by
  cases row <;> simp [AllAlike]

theorem allAlike_cons {n : Node} {rest row : List Node} :
    AllAlike (n :: rest) row ↔ ∃ m more, row = m :: more ∧ n.Alike m ∧ AllAlike rest more := by
  cases row with
  | nil => simp [AllAlike]
  | cons m more => simp [AllAlike]

theorem length_of_allAlike {row row' : List Node} (h : AllAlike row row') :
    row.length = row'.length := by
  induction row generalizing row' with
  | nil => rw [allAlike_nil.mp h]
  | cons n rest ih =>
      obtain ⟨m, more, rfl, -, others⟩ := allAlike_cons.mp h
      rw [List.length_cons, List.length_cons, ih others]

/-- The number of children matters to the layout of a group only, which is no text. -/
theorem Alike.sameFront {n m : Node} (h : n.Alike m) : n.SameFront m := by
  rw [alike_iff] at h
  obtain ⟨kind, layout, styles, inside⟩ := h
  refine ⟨kind, ?_, styles⟩
  rw [layoutClass, layoutClass, layout, kind]
  cases container : m.kind.isContainer with
  | true =>
      rw [kind, container, if_pos rfl] at inside
      rw [length_of_allAlike inside]
  | false =>
      have other : m.kind ≠ .group := by
        intro group
        rw [group] at container
        cases container
      simp [other]

end Node

/-! ## Declarations in another order -/

/-- Sorted, the declarations of a map do not depend on the order of the map. -/
theorem sortDeclarations_of_perm {a b : Declarations} (permuted : a.entries.Perm b.entries) :
    sortDeclarations a.entries = sortDeclarations b.entries := by
  have rows : (sortDeclarations a.entries).Perm (sortDeclarations b.entries) :=
    ((sortByKey_perm Prod.fst a.entries).trans permuted).trans
      (sortByKey_perm Prod.fst b.entries).symm
  refine rows.eq_of_pairwise ?_ (pairwise_lt_sortByKey a.nodup_keys)
    (pairwise_lt_sortByKey b.nodup_keys)
  intro d e _ _ below above
  exact absurd (lt_trans below above) (lt_irrefl _)

namespace Node.SameFront

variable {n m : Node} (h : n.SameFront m) (options : ComponentOptions)

include h

theorem effectiveDeclarations_perm :
    (n.effectiveDeclarations options).Perm (m.effectiveDeclarations options) := by
  have keys : flexDirectionProperty ∈ n.styles.keys ↔ flexDirectionProperty ∈ m.styles.keys :=
    (h.styles.map Prod.fst).mem_iff
  simp only [effectiveDeclarations, h.layoutClass, keys]
  split
  · exact h.styles.append_right _
  · exact h.styles

theorem sortDeclarations_effectiveStyles :
    sortDeclarations (n.effectiveStyles options).entries
      = sortDeclarations (m.effectiveStyles options).entries := by
  apply sortDeclarations_of_perm
  rw [entries_effectiveStyles, entries_effectiveStyles]
  exact h.effectiveDeclarations_perm options

theorem styleSet : n.styleSet options = m.styleSet options := by
  rw [Node.styleSet, Declarations.styleSet, h.sortDeclarations_effectiveStyles options]
  rfl

theorem isEmpty_effectiveDeclarations :
    (n.effectiveDeclarations options).isEmpty = (m.effectiveDeclarations options).isEmpty :=
  (h.effectiveDeclarations_perm options).isEmpty_eq

/-- The two are refused for the same declaration; the complaint names the node. -/
theorem invalidStyle? :
    (n.invalidStyle? options).map (fun e => (e.property, e.fault))
      = (m.invalidStyle? options).map fun e => (e.property, e.fault) := by
  rw [Node.invalidStyle?, Node.invalidStyle?, h.sortDeclarations_effectiveStyles options,
    Option.map_map, Option.map_map]
  rfl

end Node.SameFront

/-! ## Markup -/

mutual
/-- Trees that are alike render the same nodes, as far as each shows of itself. -/
theorem Node.map_rendered_of_alike {α : Type} {f : Node → α}
    (same : ∀ n m : Node, n.SameFront m → f n = f m) :
    ∀ {n m : Node}, n.Alike m → n.rendered.map f = m.rendered.map f
  | ⟨kind, _, _, _, children, _, _⟩, m, h => by
      have front := same _ _ h.sameFront
      rw [Node.alike_iff] at h
      obtain ⟨kinds, -, -, inside⟩ := h
      rw [rendered_eq, rendered_eq m, List.map_cons, List.map_cons, front, ← kinds]
      by_cases container : kind.isContainer = true
      · rw [if_pos container] at inside
        rw [if_pos container, if_pos container, Node.map_renderedAll_of_alike same inside]
      · rw [if_neg container, if_neg container]

theorem Node.map_renderedAll_of_alike {α : Type} {f : Node → α}
    (same : ∀ n m : Node, n.SameFront m → f n = f m) :
    ∀ {row row' : List Node}, Node.AllAlike row row' →
      (Node.renderedAll row).map f = (Node.renderedAll row').map f
  | [], row', h => by rw [allAlike_nil.mp h]
  | n :: rest, row', h => by
      obtain ⟨m, more, shape, first, others⟩ := allAlike_cons.mp h
      rw [shape, renderedAll, renderedAll, List.map_append, List.map_append,
        Node.map_rendered_of_alike same first, Node.map_renderedAll_of_alike same others]
end

mutual
/-- Trees that are alike are one element when nodes with the same front have the same key. -/
theorem Node.element_of_alike {keyOf : Node → Option String}
    (keys : ∀ n m : Node, n.SameFront m → keyOf n = keyOf m) :
    ∀ {n m : Node}, n.Alike m → n.element keyOf = m.element keyOf
  | ⟨kind, _, _, _, children, _, _⟩, m, h => by
      have front := keys _ _ h.sameFront
      rw [Node.alike_iff] at h
      obtain ⟨kinds, -, -, inside⟩ := h
      rw [element_eq, element_eq keyOf m, front, ← kinds]
      by_cases container : kind.isContainer = true
      · rw [if_pos container] at inside
        rw [if_pos container, if_pos container, Node.elements_of_alike keys inside]
      · rw [if_neg container] at inside
        rw [if_neg container, if_neg container, inside]

theorem Node.elements_of_alike {keyOf : Node → Option String}
    (keys : ∀ n m : Node, n.SameFront m → keyOf n = keyOf m) :
    ∀ {row row' : List Node}, Node.AllAlike row row' →
      Node.elements keyOf row = Node.elements keyOf row'
  | [], row', h => by rw [allAlike_nil.mp h]
  | n :: rest, row', h => by
      obtain ⟨m, more, shape, first, others⟩ := allAlike_cons.mp h
      rw [shape, elements, elements, Node.element_of_alike keys first, Node.elements_of_alike keys others]
end

/-! ## Files -/

theorem Node.Alike.isEmptyComponent {n m : Node} (h : n.Alike m) (options : ComponentOptions) :
    n.isEmptyComponent options = m.isEmptyComponent options := by
  have declared := h.sameFront.isEmpty_effectiveDeclarations options
  rw [alike_iff] at h
  obtain ⟨kind, -, -, inside⟩ := h
  rw [Node.isEmptyComponent, Node.isEmptyComponent, OrderedMap.isEmpty, OrderedMap.isEmpty,
    entries_effectiveStyles, entries_effectiveStyles, declared, kind]
  cases container : m.kind.isContainer with
  | false => rfl
  | true =>
      rw [kind, if_pos container] at inside
      have children : n.children.isEmpty = m.children.isEmpty := by
        rw [Bool.eq_iff_iff, List.isEmpty_iff_length_eq_zero, List.isEmpty_iff_length_eq_zero,
          length_of_allAlike inside]
      rw [children]

namespace Design.Alike

variable {a b : Design} (h : a.Alike b) (options : ComponentOptions)

include h

theorem map_renderedNodes {α : Type} {f : Node → α}
    (same : ∀ n m : Node, n.SameFront m → f n = f m) :
    (a.renderedNodes options).map f = (b.renderedNodes options).map f := by
  rw [renderedNodes, renderedNodes, h.root.isEmptyComponent]
  split
  · rfl
  · exact Node.map_rendered_of_alike same h.root

theorem styling : a.styling options = b.styling options :=
  styling_congr (h.map_renderedNodes options fun _ _ front => front.styleSet options)

theorem importedNames : a.importedNames options = b.importedNames options := by
  apply importedNames_congr
  · rw [h.state]
  · apply h.map_renderedNodes
    intro n m front
    rw [front.isEmpty_effectiveDeclarations]
  · apply h.map_renderedNodes
    intro n m front
    rw [front.kind]

/-- Designs that are alike have the same lines. -/
theorem sourceLines (q : QuoteStyle) : a.sourceLines options q = b.sourceLines options q := by
  have element : a.root.element (b.styling options).keyOf = b.root.element (b.styling options).keyOf := by
    apply Node.element_of_alike _ h.root
    intro n m front
    show Node.keyAmong _ _ _ = Node.keyAmong _ _ _
    rw [Node.keyAmong, front.styleSet, Node.keyAmong]
  rw [Design.sourceLines, Design.sourceLines, h.importedNames, h.styling, functionLines,
    functionLines, headerLine, headerLine, h.name, h.state, returnLines, returnLines,
    h.root.isEmptyComponent, element]

/-- The first declaration that is refused is the same in both. -/
theorem invalidStyle? :
    ((a.renderedNodes options).findSome? (Node.invalidStyle? options)).map
        (fun e => (e.property, e.fault))
      = ((b.renderedNodes options).findSome? (Node.invalidStyle? options)).map
        fun e => (e.property, e.fault) := by
  have faults := h.map_renderedNodes options fun _ _ front => front.invalidStyle? options
  have first := congrArg (List.findSome? id) faults
  rw [List.findSome?_map, List.findSome?_map] at first
  rw [List.map_findSome?, List.map_findSome?]
  exact first

end Design.Alike

/-- Two designs that are alike have one file: it is generated for one exactly if it is generated for
the other, with the same text. Where it is not, both are refused for the same declaration, and only
the name of the node in the complaint may differ. -/
theorem generate_of_alike {a b : Design} (h : a.Alike b) (settings : Settings) :
    (∀ code, (generate settings a).result = .ok code ↔ (generate settings b).result = .ok code) ∧
      ∀ e, (generate settings a).result = .error (.invalidStyle e) →
        ∃ node, (generate settings b).result = .error (.invalidStyle ⟨node, e.property, e.fault⟩) := by
  have lines := h.sourceLines settings.component settings.writer.quoteStyle
  have faults := h.invalidStyle? settings.component
  rw [result_generate, result_generate, lines]
  cases first : (a.renderedNodes settings.component).findSome?
      (Node.invalidStyle? settings.component) with
  | none =>
      rw [first] at faults
      rw [Option.map_eq_none_iff.mp faults.symm]
      exact ⟨fun _ => Iff.rfl, fun e refused => by cases refused⟩
  | some e =>
      rw [first, Option.map_some] at faults
      obtain ⟨e', found, same⟩ := Option.map_eq_some_iff.mp faults.symm
      obtain ⟨property, fault⟩ := Prod.mk.inj same
      rw [found]
      refine ⟨fun code => ⟨fun h => (by cases h), fun h => (by cases h)⟩, ?_⟩
      rintro _ ⟨⟩
      exact ⟨e'.node, by rw [← property, ← fault]⟩

def noteDesign : Design :=
  let note := ((Node.new .text "note").withStyle "color" (.text "red")).withStyle "flex" (.text "1")
  let row := ((Node.new .frame "row").withLayout .horizontal).withChild note
  (Design.new (((Node.new .component "card").onPage "home").withChild row)).withState
    "home" "card" ⟨"open", .text "no"⟩

/-- The card with another name and characters for its row, a page and a tree for its note, whose
declarations are in another order, and with state for another component. -/
def disguisedNote : Design :=
  let note := (((((Node.new .text "remark").onPage "away").withCharacters "note").withStyle
    "flex" (.text "1")).withStyle "color" (.text "red")).withChild (Node.new .frame "below")
  let row := (((Node.new .frame "line").withLayout .horizontal).withCharacters "unseen").withChild note
  ((Design.new (((Node.new .component "card").onPage "home").withChild row)).withState
    "home" "other" ⟨"count", .text "1"⟩).withState "home" "card" ⟨"open", .text "no"⟩

/-- The disguised card has the file of the card. -/
theorem generate_of_disguisedNote :
    disguisedNote.Alike noteDesign ∧
      ∃ code, (generate {} noteDesign).result = .ok code ∧
        (generate {} disguisedNote).result = .ok code := by
  have alike : disguisedNote.Alike noteDesign := by
    refine ⟨by decide, by decide, rfl, rfl, .refl _, ?_, trivial⟩
    exact ⟨rfl, rfl, .refl _, ⟨rfl, rfl, .swap _ _ _, (rfl : "note" = "note")⟩, trivial⟩
  have valid : (noteDesign.renderedNodes {}).findSome? (Node.invalidStyle? {}) = none := by
    decide
  have generated := result_generate {} noteDesign
  rw [valid] at generated
  exact ⟨alike, _, generated, ((generate_of_alike alike {}).1 _).mpr generated⟩

end Viewsmith
