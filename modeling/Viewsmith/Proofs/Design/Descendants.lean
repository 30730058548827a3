import Mathlib.Data.List.Basic
import Viewsmith.Proofs.Design.Rendered

/-!
# Descendants

A walk keeps the nodes that it has still to visit. What it visits is told by plain recursion on the
tree: a node, and then what is below each of its children in turn (`Node.descendants_eq`). Of these
nodes the rendered ones are those without a text above them (`Node.rendered_eq_coverage`).
-/

namespace Viewsmith

/-! ## Walks -/

mutual
/-- A node and all nodes below it, parents before children, in order. -/
def Node.preorder : Node → List Node
  | n@⟨_, _, _, _, children, _, _⟩ => n :: Node.preorderAll children

def Node.preorderAll : List Node → List Node
  | [] => []
  | n :: rest => n.preorder ++ Node.preorderAll rest
end

theorem Node.preorder_eq (n : Node) : n.preorder = n :: preorderAll n.children := by
  cases n
  rw [preorder]

theorem Node.preorderAll_singleton (n : Node) : preorderAll [n] = n.preorder := by
  rw [preorderAll, preorderAll, List.append_nil]

theorem Node.preorderAll_append (front back : List Node) :
    preorderAll (front ++ back) = preorderAll front ++ preorderAll back := by
  induction front with
  | nil => rw [List.nil_append, preorderAll, List.nil_append]
  | cons n rest ih => rw [List.cons_append, preorderAll, preorderAll, ih, List.append_assoc]

/-- The first of a row of trees is followed by its children. -/
theorem Node.preorderAll_cons (n : Node) (rest : List Node) :
    preorderAll (n :: rest) = n :: preorderAll (n.children ++ rest) := by
  rw [preorderAll, preorder_eq, preorderAll_append, List.cons_append]

mutual
theorem Node.length_preorder : ∀ n : Node, n.preorder.length = n.size
  | ⟨_, _, _, _, children, _, _⟩ => by
      rw [preorder, size, List.length_cons, length_preorderAll children, Nat.add_comm]

theorem Node.length_preorderAll : ∀ nodes : List Node, (preorderAll nodes).length = sizes nodes
  | [] => by rw [preorderAll, sizes, List.length_nil]
  | n :: rest => by
      rw [preorderAll, sizes, List.length_append, length_preorder n, length_preorderAll rest]
end

/-- A walk with a step for each node that is pending, or below one that is, visits them all. -/
theorem Walk.run_of_enough (steps : Nat) : ∀ pending : List Node,
    (Node.preorderAll pending).length ≤ steps →
      Walk.run steps ⟨pending⟩ = Node.preorderAll pending := by
  induction steps with
  | zero =>
      intro pending enough
      rw [run, List.eq_nil_of_length_eq_zero (Nat.le_zero.mp enough)]
  | succ steps ih =>
      intro pending enough
      cases pending with
      | nil =>
          rw [Node.preorderAll]
          rfl
      | cons n rest =>
          rw [Node.preorderAll_cons, List.length_cons] at enough
          rw [Node.preorderAll_cons, ← ih (n.children ++ rest) (Nat.le_of_succ_le_succ enough)]
          rfl

theorem Node.descendants_eq (n : Node) : n.descendants = n.preorder := by
  have enough : (preorderAll [n]).length ≤ n.size := by
    rw [preorderAll_singleton, length_preorder]
  rw [descendants, walk, Walk.run_of_enough n.size [n] enough, preorderAll_singleton]

/-! ## Nodes below texts -/

mutual
/-- A node and all nodes below it, each with whether a text stands above it. `covered` tells this of
the node itself. -/
def Node.coverage (covered : Bool) : Node → List (Node × Bool)
  | n@⟨kind, _, _, _, children, _, _⟩ =>
      (n, covered) :: Node.coverageAll (covered || kind = .text) children

def Node.coverageAll (covered : Bool) : List Node → List (Node × Bool)
  | [] => []
  | n :: rest => n.coverage covered ++ Node.coverageAll covered rest
end

/-- The number of nodes below a text. -/
def Node.coveredCount (n : Node) : Nat := (n.coverage false).countP Prod.snd

mutual
/-- What stands above the nodes makes no difference to which nodes there are. -/
theorem Node.map_fst_coverage : ∀ (n : Node) (covered : Bool),
    (n.coverage covered).map Prod.fst = n.preorder
  | ⟨_, _, _, _, children, _, _⟩, covered => by
      rw [coverage, preorder, List.map_cons, map_fst_coverageAll children]

theorem Node.map_fst_coverageAll : ∀ (nodes : List Node) (covered : Bool),
    (coverageAll covered nodes).map Prod.fst = preorderAll nodes
  | [], _ => by rw [coverageAll, preorderAll, List.map_nil]
  | n :: rest, covered => by
      rw [coverageAll, preorderAll, List.map_append, map_fst_coverage n,
        map_fst_coverageAll rest]
end

mutual
/-- Below a text everything is covered. -/
theorem Node.covered_of_mem_coverage : ∀ n : Node, ∀ p ∈ n.coverage true, p.2 = true
  | ⟨_, _, _, _, children, _, _⟩ => by
      rw [coverage, List.forall_mem_cons, Bool.true_or]
      exact ⟨rfl, covered_of_mem_coverageAll children⟩

theorem Node.covered_of_mem_coverageAll : ∀ nodes : List Node,
    ∀ p ∈ coverageAll true nodes, p.2 = true
  | [] => by
      rw [coverageAll]
      exact List.forall_mem_nil _
  | n :: rest => by
      rw [coverageAll, List.forall_mem_append]
      exact ⟨covered_of_mem_coverage n, covered_of_mem_coverageAll rest⟩
end

theorem Node.filter_coverageAll_true (nodes : List Node) :
    (coverageAll true nodes).filter (fun p => !p.2) = [] := by
  rw [List.filter_eq_nil_iff]
  intro p inside
  simp [covered_of_mem_coverageAll nodes p inside]

theorem NodeKind.decide_eq_text (kind : NodeKind) : decide (kind = .text) = !kind.isContainer := by
  cases kind <;> rfl

mutual
/-- The rendered nodes are those without a text above them. -/
theorem Node.rendered_eq_coverage : ∀ n : Node,
    n.rendered = ((n.coverage false).filter fun p => !p.2).map Prod.fst
  | ⟨kind, _, _, _, children, _, _⟩ => by
      rw [rendered, coverage, Bool.false_or, NodeKind.decide_eq_text]
      cases kind.isContainer with
      | true =>
          rw [if_pos rfl, renderedAll_eq_coverageAll children]
          rfl
      | false =>
          rw [if_neg Bool.false_ne_true]
          show _ = (_ :: (coverageAll true children).filter fun p => !p.2).map Prod.fst
          rw [filter_coverageAll_true]
          rfl

theorem Node.renderedAll_eq_coverageAll : ∀ nodes : List Node,
    renderedAll nodes = ((coverageAll false nodes).filter fun p => !p.2).map Prod.fst
  | [] => by
      rw [renderedAll, coverageAll]
      rfl
  | n :: rest => by
      rw [renderedAll, coverageAll, List.filter_append, List.map_append, rendered_eq_coverage n,
        renderedAll_eq_coverageAll rest]
end

/-- A node is rendered, or it is below a text. -/
theorem Node.length_rendered_add (n : Node) :
    n.rendered.length + n.coveredCount = n.descendants.length := by
  have all : (n.coverage false).length = n.descendants.length := by
    rw [descendants_eq, ← map_fst_coverage n false, List.length_map]
  rw [← all, rendered_eq_coverage, List.length_map, coveredCount, List.countP_eq_length_filter,
    Nat.add_comm]
  exact (List.length_eq_length_filter_add Prod.snd).symm

/-! ## A card with nested texts -/

/-- A card with a state entry repeated, around a text that holds a text with children. -/
def nestedDesign : Design :=
  let inner := (Node.new .text "inner").withChild (Node.new .text "innermost")
  let outer := (Node.new .text "outer").withChild inner
  let card := ((Node.new .component "Card").onPage "Home").withChild outer
  ((Design.new card).withState "Home" "Card" ⟨"open", .text "no"⟩).withState "Home" "Card"
    ⟨"open", .text "yes"⟩

example : nestedDesign.nodeCount = 4 ∧ nestedDesign.root.rendered.length = 2 ∧
    nestedDesign.root.coveredCount = 2 := by
  decide +kernel

end Viewsmith
