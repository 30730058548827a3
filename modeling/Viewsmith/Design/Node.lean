import Viewsmith.OrderedMap

/-!
# Design trees

A design tool hands over a tree of nodes: frames, groups and other containers that hold children,
and texts. A node carries a name, style declarations and, for containers, a layout mode.
-/

namespace Viewsmith

/-! ## Values of a node -/

inductive NodeKind : Type where
  | component
  | componentInstance
  | frame
  | group
  | rectangle
  | text
deriving DecidableEq, Repr

namespace NodeKind

def all : List NodeKind := [component, componentInstance, frame, group, rectangle, text]

def tag : NodeKind → String
  | component => "COMPONENT"
  | componentInstance => "INSTANCE"
  | frame => "FRAME"
  | group => "GROUP"
  | rectangle => "RECTANGLE"
  | text => "TEXT"

def ofTag? (tag : String) : Option NodeKind := all.find? fun kind => kind.tag = tag

/-- Whether nodes of a kind may hold children. -/
def isContainer : NodeKind → Bool
  | text => false
  | _ => true

theorem ofTag?_tag (kind : NodeKind) : ofTag? kind.tag = some kind := by
  cases kind <;> decide

end NodeKind

structure UnknownNodeKind : Type where
  tag : String
deriving DecidableEq, Repr

def UnknownNodeKind.message (e : UnknownNodeKind) : String := "Unknown node type: " ++ e.tag

/-- The direction in which a container lays out its children. -/
inductive LayoutMode : Type where
  | none
  | vertical
  | horizontal
deriving DecidableEq, Repr

def LayoutMode.name : LayoutMode → String
  | .none => "NONE"
  | .vertical => "VERTICAL"
  | .horizontal => "HORIZONTAL"

/-- All layout modes, in the order in which messages list them. -/
def LayoutMode.all : List LayoutMode := [.none, .vertical, .horizontal]

/-- The value of a style property or of a state entry. -/
inductive Literal : Type where
  | number (value : Float)
  | text (value : String)
deriving DecidableEq

abbrev Declarations : Type := OrderedMap Literal

/-! ## Nodes -/

/-- A node of a design tree. `page` names the page that contains the node, `characters` is the
content of a text. -/
structure Node : Type where
  kind : NodeKind
  name : String
  page : Option String
  layout : LayoutMode
  children : List Node
  styles : Declarations
  characters : Option String

namespace Node

def new (kind : NodeKind) (name : String) : Node :=
  ⟨kind, name, Option.none, .none, [], .empty, Option.none⟩

def onPage (n : Node) (page : String) : Node := { n with page := some page }

def withLayout (n : Node) (layout : LayoutMode) : Node := { n with layout := layout }

def withChild (n child : Node) : Node := { n with children := n.children ++ [child] }

def withStyle (n : Node) (property : String) (value : Literal) : Node :=
  { n with styles := n.styles.insert property value }

def withCharacters (n : Node) (characters : String) : Node :=
  { n with characters := some characters }

/-- What a text shows: its characters, or its name where it has none. -/
def content (n : Node) : String := n.characters.getD n.name

end Node

/-! ## Walking a tree -/

mutual
def Node.size : Node → Nat
  | ⟨_, _, _, _, children, _, _⟩ => 1 + Node.sizes children

def Node.sizes : List Node → Nat
  | [] => 0
  | n :: rest => n.size + Node.sizes rest
end

/-- A walk through a tree that is under way: the nodes still to be visited, the next one first. -/
structure Walk : Type where
  pending : List Node

namespace Walk

/-- Visits one node; its children are visited before anything else that is pending. -/
def next? (w : Walk) : Option (Node × Walk) :=
  match w.pending with
  | [] => none
  | n :: rest => some (n, ⟨n.children ++ rest⟩)

/-- The nodes that the first `steps` steps of a walk visit. -/
def run : Nat → Walk → List Node
  | 0, _ => []
  | steps + 1, w =>
      match w.next? with
      | none => []
      | some (n, w) => n :: run steps w

end Walk

def Node.walk (n : Node) : Walk := ⟨[n]⟩

/-- A node and all nodes below it, parents before children, in order. -/
def Node.descendants (n : Node) : List Node := n.walk.run n.size

end Viewsmith
