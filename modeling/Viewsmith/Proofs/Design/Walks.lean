import Mathlib.Algebra.Ring.Nat
import Viewsmith.Proofs.Design.Descendants
import Viewsmith.Proofs.Design.Positions

/-!
# Walks step by step

At every moment of a walk the nodes visited so far, and then what is pending with all that is below it,
make up one and the same list (`Walk.Visits.preorderAll_eq`). So a walk that begins at a node comes to an
end, whatever its tree, and has then visited the preorder of the node (`visits_of_walk`). The preorder
holds one node for each position in the tree, and the positions are in lexicographic order: a node comes
before what is below it, and what is below a child comes before the next child.
-/

namespace Viewsmith

/-! ## Steps -/

namespace Walk

/-- The walk whose pending nodes lie on a stack, the next one on top. The top is the end of the list. -/
def ofStack (stack : List Node) : Walk := ⟨stack.reverse⟩

/-- A step takes the top off the stack and puts the children there, the last one first. -/
theorem next?_ofStack (stack : List Node) :
    (ofStack stack).next?
      = stack.getLast?.map fun n => (n, ofStack (stack.dropLast ++ n.children.reverse)) := by
  rcases List.eq_nil_or_concat stack with rfl | ⟨below, top, rfl⟩
  · rfl
  · simp [ofStack, next?]

/-- A walk visits nodes one after another, and then another walk is left of it. -/
inductive Visits : Walk → List Node → Walk → Prop where
  | stop (w : Walk) : w.Visits [] w
  | step {w next last : Walk} {n : Node} {nodes : List Node} (taken : w.next? = some (n, next))
      (more : next.Visits nodes last) : w.Visits (n :: nodes) last

theorem next?_eq_none {w : Walk} : w.next? = none ↔ w.pending = [] := by
  obtain ⟨pending⟩ := w
  cases pending with
  | nil => exact iff_of_true rfl rfl
  | cons n rest => exact iff_of_false nofun nofun

/-- A step visits the first node of what is to come, and leaves the others. -/
theorem preorderAll_of_next? {w next : Walk} {n : Node} (taken : w.next? = some (n, next)) :
    Node.preorderAll w.pending = n :: Node.preorderAll next.pending := by
  obtain ⟨pending⟩ := w
  cases pending with
  | nil => cases taken
  | cons m rest =>
      cases taken
      exact Node.preorderAll_cons n rest

/-- Whatever a walk has visited, the rest is still to come. -/
theorem Visits.preorderAll_eq {w last : Walk} {nodes : List Node} (h : w.Visits nodes last) :
    Node.preorderAll w.pending = nodes ++ Node.preorderAll last.pending := by
  induction h with
  | stop => rfl
  | step taken _ ih => rw [preorderAll_of_next? taken, ih, List.cons_append]

/-- A walk comes to an end: each step leaves one node less to come. -/
theorem visits_preorderAll (steps : Nat) : ∀ w : Walk,
    (Node.preorderAll w.pending).length = steps → w.Visits (Node.preorderAll w.pending) ⟨[]⟩ := by
  induction steps with
  | zero =>
      rintro ⟨_ | ⟨n, rest⟩⟩ count
      · rw [Node.preorderAll]
        exact .stop _
      · rw [Node.preorderAll_cons] at count
        cases count
  | succ steps ih =>
      rintro ⟨_ | ⟨n, rest⟩⟩ count
      · rw [Node.preorderAll] at count
        cases count
      · rw [Node.preorderAll_cons, List.length_cons] at count
        rw [Node.preorderAll_cons]
        exact .step rfl (ih ⟨n.children ++ rest⟩ (Nat.succ.inj count))

end Walk

/-! ## Positions -/

namespace Node

mutual
/-- The positions in a tree, in preorder. -/
def positions : Node → List (List Nat)
  | ⟨_, _, _, _, children, _, _⟩ => [] :: positionsFrom 0 children

/-- The positions in a row of trees that are numbered from a number on. -/
def positionsFrom (number : Nat) : List Node → List (List Nat)
  | [] => []
  | n :: rest => n.positions.map (number :: ·) ++ positionsFrom (number + 1) rest
end

theorem positionsFrom_eq_flatMap (nodes : List Node) (number : Nat) :
    positionsFrom number nodes
      = (nodes.zipIdx number).flatMap fun c => c.1.positions.map (c.2 :: ·) := by
  induction nodes generalizing number with
  | nil => rw [positionsFrom, List.zipIdx_nil, List.flatMap_nil]
  | cons n rest ih => rw [positionsFrom, ih, List.zipIdx_cons, List.flatMap_cons]

theorem positions_eq (n : Node) :
    n.positions = [] :: n.children.zipIdx.flatMap fun c => c.1.positions.map (c.2 :: ·) := by
  rw [← positionsFrom_eq_flatMap]
  cases n
  rw [positions]

theorem preorderAll_eq_flatMap (nodes : List Node) : preorderAll nodes = nodes.flatMap preorder := by
  induction nodes with
  | nil => rw [preorderAll, List.flatMap_nil]
  | cons n rest ih => rw [preorderAll, List.flatMap_cons, ih]

/-- The positions are the paths that lead to a node. -/
theorem mem_positions {n : Node} {path : List Nat} : path ∈ n.positions ↔ (n.at? path).isSome := by
  induction path generalizing n with
  | nil =>
      rw [positions_eq]
      exact iff_of_true List.mem_cons_self rfl
  | cons i path ih =>
      rw [positions_eq, at?]
      simp only [List.mem_cons, reduceCtorEq, false_or, List.mem_flatMap, Prod.exists, List.mem_map,
        List.cons.injEq, exists_eq_right_right, List.mem_zipIdx_iff_getElem?, ih]
      cases n.children[i]? with
      | none => simp
      | some child => simp

/-- Positions come in lexicographic order, hence each of them once. -/
theorem pairwise_positions (n : Node) : n.positions.Pairwise (· < ·) := by
  induction n using Node.induct with
  | step n ih =>
      rw [positions_eq, List.pairwise_cons, List.pairwise_flatMap]
      refine ⟨?_, ?_, ?_⟩
      · intro path below
        simp only [List.mem_flatMap, List.mem_map] at below
        obtain ⟨c, -, rest, -, rfl⟩ := below
        exact List.nil_lt_cons _ _
      · rintro ⟨child, i⟩ hc
        rw [List.pairwise_map]
        refine (ih child (List.fst_mem_of_mem_zipIdx hc)).imp fun smaller => ?_
        exact List.cons_lt_cons_iff.mpr (.inr ⟨rfl, smaller⟩)
      · have numbers : (n.children.zipIdx.map Prod.snd).Pairwise (· < ·) := by
          rw [List.zipIdx_map_snd]
          exact List.pairwise_lt_range'
        rw [List.pairwise_map] at numbers
        refine numbers.imp fun smaller => ?_
        intro first hfirst second hsecond
        obtain ⟨rest, -, rfl⟩ := List.mem_map.mp hfirst
        obtain ⟨rest', -, rfl⟩ := List.mem_map.mp hsecond
        exact List.cons_lt_cons_iff.mpr (.inl smaller)

/-- The preorder holds the nodes at the positions, in the order of the positions. -/
theorem map_at?_positions (n : Node) : n.positions.map n.at? = n.preorder.map some := by
  induction n using Node.induct with
  | step n ih =>
      have below : ∀ c ∈ n.children.zipIdx,
          (c.1.positions.map (c.2 :: ·)).map n.at? = c.1.preorder.map some := by
        rintro ⟨child, i⟩ hc
        have found : n.children[i]? = some child := List.mem_zipIdx_iff_getElem?.mp hc
        rw [← ih child (List.mem_of_getElem? found), List.map_map]
        refine List.map_congr_left fun path _ => ?_
        rw [Function.comp_apply, at?, found, Option.bind_some]
      rw [positions_eq, preorder_eq, preorderAll_eq_flatMap, List.map_cons, List.map_cons,
        List.map_flatMap, List.map_flatMap, List.flatMap_congr below, at?]
      have children : n.children.zipIdx.map Prod.fst = n.children := List.zipIdx_map_fst 0 n.children
      rw [← List.flatMap_map Prod.fst fun child : Node => child.preorder.map some, children]

theorem preorderAll_eq_nil {nodes : List Node} : preorderAll nodes = [] ↔ nodes = [] := by
  cases nodes with
  | nil => exact iff_of_true (by rw [preorderAll]) rfl
  | cons n rest =>
      rw [preorderAll_cons]
      exact iff_of_false nofun nofun

/-- A tree has one node more than its children have together. -/
theorem length_descendants (n : Node) :
    n.descendants.length = 1 + (n.children.map fun child => child.descendants.length).sum := by
  have children : n.children.map (fun child => child.descendants.length)
      = n.children.map fun child => child.preorder.length :=
    List.map_congr_left fun child _ => by rw [descendants_eq]
  rw [children, descendants_eq, preorder_eq, preorderAll_eq_flatMap, List.length_cons,
    List.length_flatMap, Nat.add_comm]

end Node

/-- Take any tree and the walk that begins at its root, with a stack that holds the root alone. A step takes
the node on top of the stack, and puts its children there in reverse. The walk ends, and what it visits
before it ends is always the beginning of one list, all of it exactly if the walk has ended. That list is
the node itself and then the lists of its children in turn, and it holds the node at each position once, by
lexicographic order of the positions. So the number of nodes of a document is one more than the
children of its root have together. -/
theorem visits_of_walk (n : Node) :
    n.walk = Walk.ofStack [n] ∧
      (∀ stack : List Node, (Walk.ofStack stack).next? =
        stack.getLast?.map fun m => (m, Walk.ofStack (stack.dropLast ++ m.children.reverse))) ∧
      (∃ w : Walk, n.walk.Visits n.preorder w ∧ w.next? = none) ∧
      (∀ nodes w, n.walk.Visits nodes w →
        nodes <+: n.preorder ∧ (w.next? = none ↔ nodes = n.preorder)) ∧
      n.preorder = n :: n.children.flatMap Node.preorder ∧
      (∃ positions : List (List Nat), positions.Pairwise (· < ·) ∧
        (∀ path, path ∈ positions ↔ (n.at? path).isSome) ∧
        positions.map n.at? = n.preorder.map some) ∧
      n.descendants = n.preorder ∧
      ∀ state : Option LocalState, Design.nodeCount ⟨n, state⟩
        = 1 + (n.children.map fun child => Design.nodeCount (.new child)).sum := by
  have whole : Node.preorderAll n.walk.pending = n.preorder := n.preorderAll_singleton
  have ends := Walk.visits_preorderAll _ n.walk rfl
  rw [whole] at ends
  refine ⟨rfl, Walk.next?_ofStack, ⟨_, ends, rfl⟩, ?_, ?_, ?_, n.descendants_eq, ?_⟩
  · intro nodes w visited
    have rest := visited.preorderAll_eq
    rw [whole] at rest
    refine ⟨⟨_, rest.symm⟩, ?_⟩
    rw [Walk.next?_eq_none, ← Node.preorderAll_eq_nil, rest, List.self_eq_append_right]
  · rw [Node.preorder_eq, Node.preorderAll_eq_flatMap]
  · exact ⟨n.positions, n.pairwise_positions, fun _ => Node.mem_positions, n.map_at?_positions⟩
  · exact fun _ => n.length_descendants

/-- What is below a child comes before the next child. -/
example :
    let left := (Node.new .frame "left").withChild (Node.new .text "leaf")
    let root := ((Node.new .frame "root").withChild left).withChild (Node.new .text "right")
    root.descendants.map Node.name = ["root", "left", "leaf", "right"] := by
  decide

end Viewsmith
