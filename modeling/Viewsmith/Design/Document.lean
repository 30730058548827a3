import Viewsmith.Design.Node

/-!
# Design documents

A document holds the tree of one component and the local state of components, filed by page and by
component name.
-/

namespace Viewsmith

structure StateEntry : Type where
  name : String
  value : Literal
deriving DecidableEq

/-- State entries by page, then by component. -/
abbrev LocalState : Type := OrderedMap (OrderedMap (List StateEntry))

structure Design : Type where
  root : Node
  localState : Option LocalState

namespace Design

def new (root : Node) : Design := ⟨root, none⟩

/-- Adds a state entry after those that the component already has on the page. -/
def withState (d : Design) (page component : String) (entry : StateEntry) : Design :=
  let pages := d.localState.getD .empty
  { d with
    localState := some <| pages.upsert page fun components =>
      (components.getD .empty).upsert component fun entries => entries.getD [] ++ [entry] }

def stateFor (d : Design) (page component : String) : Option (List StateEntry) :=
  (d.localState.bind (·.find? page)).bind (·.find? component)

def nodeCount (d : Design) : Nat := d.root.descendants.length

/-- The state entries of the root, which are found by the names of its page and its own. -/
def rootState (d : Design) : Option (List StateEntry) :=
  d.root.page.bind fun page => d.stateFor page d.root.name

def summary (d : Design) : String :=
  s!"component '{d.root.name}' on page '" ++ d.root.page.getD "<none>"
    ++ s!"': {d.nodeCount} nodes, {(d.rootState.getD []).length} state entries"

end Design

end Viewsmith
