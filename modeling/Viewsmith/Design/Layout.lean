import Viewsmith.Design.Node

/-!
# Layout classes

The flow of a node's children. A group around a single child is a column whatever its layout mode
says; otherwise the mode decides.
-/

namespace Viewsmith

inductive LayoutClass : Type where
  | column
  | row
  | unknown
deriving DecidableEq, Repr

def LayoutClass.name : LayoutClass → String
  | .column => "column"
  | .row => "row"
  | .unknown => "unknown"

/-- The flex direction that a class calls for. A column is what a container does by itself. -/
def LayoutClass.flexDirection? : LayoutClass → Option String
  | .row => some "row"
  | _ => none

def Node.layoutClass (n : Node) : LayoutClass :=
  if n.kind = .group ∧ n.children.length = 1 then .column
  else
    match n.layout with
    | .vertical => .column
    | .horizontal => .row
    | .none => .unknown

end Viewsmith
