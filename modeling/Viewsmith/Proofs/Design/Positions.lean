import Mathlib.Data.List.Basic
import Viewsmith.Proofs.Code.Walk
import Viewsmith.Proofs.Maps

/-!
# Positions in a design

A rendered node stands at the end of a path of child numbers, and a state entry of the root has a
number. Giving the node at a path other characters changes nothing that the rest of a component
depends on: kinds, names and declarations stay as they are, everywhere in the tree
(`Node.map_rendered_withCharactersAt`).
-/

namespace Viewsmith

/-! ## Lists -/

section

variable {α β : Type}

theorem exists_modify_split {l : List α} {i : Nat} {a : α} (found : l[i]? = some a) :
    ∃ before after, l = before ++ a :: after ∧
      ∀ change : α → α, l.modify i change = before ++ change a :: after := by
  obtain ⟨bound, rfl⟩ := List.getElem?_eq_some_iff.mp found
  refine ⟨l.take i, l.drop (i + 1), ?_, fun change => List.modify_eq_take_cons_drop bound⟩
  rw [← List.drop_eq_getElem_cons bound, List.take_append_drop]

theorem flatMap_modify {change : α → α} {f : α → List β} (same : ∀ a, f (change a) = f a)
    (l : List α) (i : Nat) : (l.modify i change).flatMap f = l.flatMap f := by
  cases found : l[i]? with
  | none => rw [List.modify_eq_self (List.getElem?_eq_none_iff.mp found)]
  | some a =>
      obtain ⟨before, after, split, modified⟩ := exists_modify_split found
      rw [modified, split, List.flatMap_append, List.flatMap_append, List.flatMap_cons,
        List.flatMap_cons, same]

end

/-! ## Nodes -/

def Node.at? : Node → List Nat → Option Node
  | n, [] => some n
  | n, i :: path => n.children[i]?.bind (·.at? path)

namespace Node

mutual
/-- What holds of a node whenever it holds of its children holds of every node. -/
@[elab_as_elim]
theorem induct {P : Node → Prop} (step : ∀ n : Node, (∀ child ∈ n.children, P child) → P n) :
    ∀ n : Node, P n
  | ⟨_, _, _, _, children, _, _⟩ => step _ (induct_row step children)

theorem induct_row {P : Node → Prop} (step : ∀ n : Node, (∀ child ∈ n.children, P child) → P n) :
    ∀ nodes : List Node, ∀ n ∈ nodes, P n
  | [], _, hn => absurd hn List.not_mem_nil
  | first :: rest, n, hn => by
      rcases List.mem_cons.mp hn with same | hn
      · rw [same]
        exact induct step first
      · exact induct_row step rest n hn
end

/-! ## Rendered nodes -/

/-- The node at the end of a path of child numbers, if it is rendered: no text may stand above it. -/
def renderedAt? : List Nat → Node → Option Node
  | [], n => some n
  | i :: path, n =>
      if n.kind.isContainer then n.children[i]?.bind (renderedAt? path) else none

theorem renderedAt?_cons_eq_some {i : Nat} {path : List Nat} {n m : Node} :
    n.renderedAt? (i :: path) = some m ↔
      n.kind.isContainer = true ∧ ∃ child, n.children[i]? = some child ∧
        child.renderedAt? path = some m := by
  rw [renderedAt?]
  split
  · rename_i container
    simp [container, Option.bind_eq_some_iff]
  · rename_i text
    simp [text]

theorem renderedAll_eq_flatMap (nodes : List Node) :
    renderedAll nodes = nodes.flatMap rendered := by
  induction nodes with
  | nil => rw [renderedAll, List.flatMap_nil]
  | cons n rest ih => rw [renderedAll, List.flatMap_cons, ih]

theorem mem_rendered_of_renderedAt? {path : List Nat} {n m : Node}
    (found : n.renderedAt? path = some m) : m ∈ n.rendered := by
  induction path generalizing n with
  | nil =>
      rw [renderedAt?, Option.some.injEq] at found
      rw [← found]
      exact n.mem_rendered_self
  | cons i path ih =>
      obtain ⟨container, child, below, found⟩ := renderedAt?_cons_eq_some.mp found
      rw [rendered_eq, if_pos container, renderedAll_eq_flatMap]
      exact List.mem_cons_of_mem _ (List.mem_flatMap.mpr ⟨child, List.mem_of_getElem? below, ih found⟩)

theorem exists_path {n m : Node} (h : m ∈ n.rendered) : ∃ path, n.renderedAt? path = some m := by
  induction n using Node.induct with
  | step n below =>
      rw [rendered_eq, List.mem_cons] at h
      rcases h with rfl | h
      · exact ⟨[], rfl⟩
      · cases container : n.kind.isContainer with
        | false =>
            rw [container, if_neg Bool.false_ne_true] at h
            cases h
        | true =>
            rw [container, if_pos rfl, renderedAll_eq_flatMap, List.mem_flatMap] at h
            obtain ⟨child, hchild, h⟩ := h
            obtain ⟨path, found⟩ := below child hchild h
            obtain ⟨i, at_i⟩ := List.mem_iff_getElem?.mp hchild
            exact ⟨i :: path, renderedAt?_cons_eq_some.mpr ⟨container, child, at_i, found⟩⟩

/-- The rendered nodes are those at the end of a path. -/
theorem mem_rendered_iff {n m : Node} : m ∈ n.rendered ↔ ∃ path, n.renderedAt? path = some m :=
  ⟨exists_path, fun ⟨_, found⟩ => mem_rendered_of_renderedAt? found⟩

/-! ## Other characters at a position -/

def withCharactersAt (characters : String) : List Nat → Node → Node
  | [], n => n.withCharacters characters
  | i :: path, n => { n with children := n.children.modify i (withCharactersAt characters path) }

section

variable (characters : String) (path : List Nat) (n : Node)

@[simp]
theorem kind_withCharactersAt : (n.withCharactersAt characters path).kind = n.kind := by
  cases path <;> rfl

@[simp]
theorem name_withCharactersAt : (n.withCharactersAt characters path).name = n.name := by
  cases path <;> rfl

@[simp]
theorem page_withCharactersAt : (n.withCharactersAt characters path).page = n.page := by
  cases path <;> rfl

@[simp]
theorem layout_withCharactersAt : (n.withCharactersAt characters path).layout = n.layout := by
  cases path <;> rfl

@[simp]
theorem styles_withCharactersAt : (n.withCharactersAt characters path).styles = n.styles := by
  cases path <;> rfl

@[simp]
theorem length_children_withCharactersAt :
    (n.withCharactersAt characters path).children.length = n.children.length := by
  cases path with
  | nil => rfl
  | cons i path => exact List.length_modify ..

@[simp]
theorem effectiveStyles_withCharactersAt (options : ComponentOptions) :
    (n.withCharactersAt characters path).effectiveStyles options = n.effectiveStyles options := by
  simp only [effectiveStyles, layoutClass, kind_withCharactersAt, layout_withCharactersAt,
    styles_withCharactersAt, length_children_withCharactersAt]

theorem effectiveDeclarations_withCharactersAt (options : ComponentOptions) :
    (n.withCharactersAt characters path).effectiveDeclarations options
      = n.effectiveDeclarations options := by
  rw [← entries_effectiveStyles, effectiveStyles_withCharactersAt, entries_effectiveStyles]

theorem styleSet_withCharactersAt (options : ComponentOptions) :
    (n.withCharactersAt characters path).styleSet options = n.styleSet options := by
  rw [styleSet, effectiveStyles_withCharactersAt, styleSet]

theorem invalidStyle?_withCharactersAt (options : ComponentOptions) :
    (n.withCharactersAt characters path).invalidStyle? options = n.invalidStyle? options := by
  rw [invalidStyle?, effectiveStyles_withCharactersAt, name_withCharactersAt, invalidStyle?]

theorem isEmptyComponent_withCharactersAt (options : ComponentOptions) :
    (n.withCharactersAt characters path).isEmptyComponent options = n.isEmptyComponent options := by
  have children : (n.withCharactersAt characters path).children.isEmpty = n.children.isEmpty := by
    rw [Bool.eq_iff_iff, List.isEmpty_iff_length_eq_zero, List.isEmpty_iff_length_eq_zero,
      length_children_withCharactersAt]
  rw [isEmptyComponent, isEmptyComponent, kind_withCharactersAt, effectiveStyles_withCharactersAt,
    children]

end

/-- What does not depend on characters is the same for all rendered nodes. -/
theorem map_rendered_withCharactersAt {α : Type} {characters : String} {f : Node → α}
    (same : ∀ path n, f (n.withCharactersAt characters path) = f n) (path : List Nat) (n : Node) :
    (n.withCharactersAt characters path).rendered.map f = n.rendered.map f := by
  induction path generalizing n with
  | nil =>
      rw [rendered_eq, rendered_eq, List.map_cons, List.map_cons, same]
      rfl
  | cons i path ih =>
      have below : (renderedAll (n.children.modify i (withCharactersAt characters path))).map f
          = (renderedAll n.children).map f := by
        rw [renderedAll_eq_flatMap, renderedAll_eq_flatMap, List.map_flatMap, List.map_flatMap]
        exact flatMap_modify ih n.children i
      rw [rendered_eq, rendered_eq, List.map_cons, List.map_cons, same, kind_withCharactersAt]
      cases n.kind.isContainer with
      | false => rfl
      | true => exact congrArg (f n :: ·) below

end Node

/-! ## Designs -/

namespace Design

def withCharactersAt (characters : String) (path : List Nat) (design : Design) : Design :=
  { design with root := design.root.withCharactersAt characters path }

/-- The design with other state entries for its root. A root without a page has none. -/
def withRootState (entries : List StateEntry) (design : Design) : Design :=
  match design.root.page with
  | none => design
  | some page =>
      { design with
        localState := some <| (design.localState.getD .empty).upsert page fun components =>
          (components.getD .empty).upsert design.root.name fun _ => entries }

/-- The design with a text as the initial value of a state entry of its root. -/
def withStateText (text : String) (number : Nat) (design : Design) : Design :=
  design.withRootState ((design.rootState.getD []).modify number fun e => ⟨e.name, .text text⟩)

@[simp]
theorem rootState_withCharactersAt (characters : String) (path : List Nat) (design : Design) :
    (design.withCharactersAt characters path).rootState = design.rootState := by
  rw [rootState, withCharactersAt, Node.page_withCharactersAt, Node.name_withCharactersAt]
  rfl

@[simp]
theorem root_withRootState (entries : List StateEntry) (design : Design) :
    (design.withRootState entries).root = design.root := by
  rw [withRootState]
  split <;> rfl

theorem rootState_withRootState {design : Design} {page : String}
    (onPage : design.root.page = some page) (entries : List StateEntry) :
    (design.withRootState entries).rootState = some entries := by
  rw [rootState, root_withRootState, onPage, Option.bind_some, stateFor, withRootState]
  simp only [onPage, Option.bind_some, OrderedMap.find?_upsert]

theorem exists_page_of_rootState {design : Design} {entries : List StateEntry}
    (state : design.rootState = some entries) : ∃ page, design.root.page = some page := by
  obtain ⟨page, onPage, -⟩ := Option.bind_eq_some_iff.mp state
  exact ⟨page, onPage⟩

/-- Replacing a value replaces it among the state entries of the root. -/
theorem rootState_withStateText {design : Design} {entries : List StateEntry}
    (state : design.rootState = some entries) (text : String) (number : Nat) :
    (design.withStateText text number).rootState
      = some (entries.modify number fun e => ⟨e.name, .text text⟩) := by
  obtain ⟨page, onPage⟩ := exists_page_of_rootState state
  rw [withStateText, rootState_withRootState onPage, state]
  rfl

end Design

end Viewsmith
