import Mathlib.Data.List.Basic
import Viewsmith.Code.Component
import Viewsmith.Design.Document
import Viewsmith.Proofs.Code.StyleMaps

/-!
# Rendered nodes

A component renders its root and what is below, except that a text hides its children and that a
childless container without effective declarations is no component at all. What is rendered and
with which declarations is told here by plain recursion on the tree, next to no emitter.
-/

namespace Viewsmith

/-! ## Effective declarations -/

/-- The declarations that a node has by itself or by its layout: a row declares its direction,
unless it has a declaration of that property already. -/
def Node.effectiveDeclarations (options : ComponentOptions) (n : Node) : List (String × Literal) :=
  if n.layoutClass = .row ∧ options.rowFromLayout ∧ flexDirectionProperty ∉ n.styles.keys then
    n.styles.entries ++ [(flexDirectionProperty, .text "row")]
  else n.styles.entries

theorem LayoutClass.flexDirection?_of_ne_row {c : LayoutClass} (h : c ≠ .row) :
    c.flexDirection? = none := by
  cases c with
  | row => exact absurd rfl h
  | column => rfl
  | unknown => rfl

theorem Node.entries_effectiveStyles (options : ComponentOptions) (n : Node) :
    (n.effectiveStyles options).entries = n.effectiveDeclarations options := by
  rw [effectiveStyles, effectiveDeclarations]
  by_cases row : n.layoutClass = .row
  · have direction : n.layoutClass.flexDirection? = some "row" := by rw [row]; rfl
    simp only [direction]
    by_cases declared : flexDirectionProperty ∈ n.styles.keys
    · have contained : n.styles.contains flexDirectionProperty = true :=
        OrderedMap.contains_eq_true.mpr declared
      simp [contained, declared]
    · have contained : n.styles.contains flexDirectionProperty = false := by
        rw [← Bool.not_eq_true, OrderedMap.contains_eq_true]
        exact declared
      cases options.rowFromLayout with
      | false => simp
      | true =>
          simp only [contained, Bool.not_false, Bool.and_true, if_true]
          rw [if_pos ⟨row, trivial, declared⟩, OrderedMap.entries_insert_of_absent declared]
  · simp [LayoutClass.flexDirection?_of_ne_row row, row]

/-- The style set of a node: its effective declarations as they are written, by property. -/
def Node.styleSet (options : ComponentOptions) (n : Node) : WrittenStyles :=
  (n.effectiveStyles options).styleSet

theorem Node.styleSet_eq_nil {options : ComponentOptions} {n : Node} :
    n.styleSet options = [] ↔ n.effectiveDeclarations options = [] := by
  rw [styleSet, Declarations.styleSet_eq_nil, OrderedMap.isEmpty, List.isEmpty_iff,
    entries_effectiveStyles]

/-- A style set holds the effective declarations of its node. -/
theorem Node.styleSet_perm (options : ComponentOptions) (n : Node) :
    (n.styleSet options).Perm (written (n.effectiveDeclarations options)) := by
  rw [← entries_effectiveStyles]
  exact (n.effectiveStyles options).styleSet_perm

/-- A style set is in the order of its properties, which are distinct. -/
theorem Node.pairwise_styleSet (options : ComponentOptions) (n : Node) :
    ((n.styleSet options).map Prod.fst).Pairwise (· < ·) :=
  (n.effectiveStyles options).pairwise_styleSet

/-! ## Keys of nodes -/

def nodeSets (options : ComponentOptions) (nodes : List Node) : List WrittenStyles :=
  styleSets (nodes.map (Node.styleSet options))

def Node.keyAmong (options : ComponentOptions) (nodes : List Node) (n : Node) : Option String :=
  keyIn options.stylePrefix (nodeSets options nodes) (n.styleSet options)

theorem Node.keyAmong_append {options : ComponentOptions} {nodes : List Node} {n : Node}
    (known : n ∈ nodes) (more : List Node) :
    n.keyAmong options (nodes ++ more) = n.keyAmong options nodes := by
  rw [keyAmong, nodeSets, List.map_append]
  exact keyIn_styleSets_append (List.mem_map_of_mem known) _

/-- Registering a node makes a table of nodes one of one more node, and yields its key there. -/
theorem StyleTable.Lists.registerNode {options : ComponentOptions} {t : StyleTable}
    {visited : List Node} (lists : t.Lists options.stylePrefix (nodeSets options visited)) {n : Node}
    {r : Registration} (registered : t.register n.name (n.effectiveStyles options) = .ok r) :
    r.table.Lists options.stylePrefix (nodeSets options (visited ++ [n])) ∧
      r.key = n.keyAmong options (visited ++ [n]) := by
  rw [Node.keyAmong, nodeSets, List.map_append]
  exact lists.register registered

/-! ## Rendered nodes -/

mutual
/-- A node and the nodes that are rendered below it, parents before children, in order. -/
def Node.rendered : Node → List Node
  | n@⟨kind, _, _, _, children, _, _⟩ =>
      n :: if kind.isContainer then Node.renderedAll children else []

def Node.renderedAll : List Node → List Node
  | [] => []
  | n :: rest => n.rendered ++ Node.renderedAll rest
end

theorem Node.rendered_eq (n : Node) :
    n.rendered = n :: if n.kind.isContainer then Node.renderedAll n.children else [] := by
  cases n
  rw [rendered]

theorem Node.mem_rendered_self (n : Node) : n ∈ n.rendered := by
  rw [rendered_eq]
  exact List.mem_cons_self

def Design.renderedNodes (options : ComponentOptions) (design : Design) : List Node :=
  if design.root.isEmptyComponent options then [] else design.root.rendered

/-- A component is empty exactly if its root is a container without children and without effective
declarations. -/
theorem Node.isEmptyComponent_iff {options : ComponentOptions} {n : Node} :
    n.isEmptyComponent options = true ↔
      n.kind.isContainer = true ∧ n.children = [] ∧ n.effectiveDeclarations options = [] := by
  rw [isEmptyComponent, Bool.and_eq_true, Bool.and_eq_true, List.isEmpty_iff, and_assoc,
    OrderedMap.isEmpty, List.isEmpty_iff, entries_effectiveStyles]

end Viewsmith
