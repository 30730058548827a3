import Viewsmith.Code.StateHooks

/-!
# Component functions

A design becomes an exported function: its state hooks, and the markup of its tree. A container is a
`View` around its children, a text is a `Text` around its content, and a node with declarations
refers to its entry in the style table. The walk stops at the first node whose declarations are
invalid; the draft as it then stands is part of the failure.
-/

namespace Viewsmith

/-! ## Effective declarations -/

def flexDirectionProperty : String := "flexDirection"

/-- The declarations of a node together with the one that its layout class calls for, unless the
node declares that property itself. -/
def Node.effectiveStyles (options : ComponentOptions) (n : Node) : Declarations :=
  match n.layoutClass.flexDirection? with
  | some direction =>
      if options.rowFromLayout && !n.styles.contains flexDirectionProperty then
        n.styles.insert flexDirectionProperty (.text direction)
      else n.styles
  | none => n.styles

/-- Whether a root renders nothing: a childless container without effective declarations. -/
def Node.isEmptyComponent (options : ComponentOptions) (n : Node) : Bool :=
  n.kind.isContainer && n.children.isEmpty && (n.effectiveStyles options).isEmpty

/-! ## Markup -/

/-- A walk that stopped at an invalid style. -/
structure EmitFailure : Type where
  error : InvalidStyle
  draft : Draft

def writeStyleAttribute (key : Option String) (b : CodeBuffer) : CodeBuffer :=
  match key with
  | none => b
  | some key => b.write " style=\x7b" |>.write (styleReference key) |>.write "\x7d"

def Draft.beginElement (options : ComponentOptions) (n : Node) (d : Draft) :
    Except EmitFailure (Option String × Draft) :=
  match d.styles.register n.name (n.effectiveStyles options) with
  | .error failure => .error ⟨failure, { d with styles := failure.table }⟩
  | .ok r =>
      let d := { d with styles := r.table }
      .ok (r.key, d.reporting (r.events ++ [.element n.name n.kind n.layoutClass]))

/-- Writes the element of a text. A text cannot have children; they are reported and dropped. -/
def Draft.writeText (key : Option String) (n : Node) (d : Draft) : Draft :=
  let dropped := if n.children.isEmpty then [] else [.ignoredChildren n.name]
  ((d.reporting dropped).mentioning .text).writing fun b =>
    ((writeStyleAttribute key (b.write "<Text") |>.write ">\x7b").quote n.content
      |>.write "\x7d</Text>").newline

def Draft.openView (key : Option String) (d : Draft) : Draft :=
  (d.mentioning .view).writing fun b => writeStyleAttribute key (b.write "<View")

mutual
def Draft.writeNode (options : ComponentOptions) : Node → Draft → Except EmitFailure Draft
  | n@⟨kind, _, _, _, children, _, _⟩, d => do
      let (key, d) ← d.beginElement options n
      if kind.isContainer then
        let d := d.openView key
        if children.isEmpty then
          return d.writing fun b => (b.write " />").newline
        else
          let d := d.writing fun b => (b.write ">").newline.indent
          let d ← Draft.writeNodes options children d
          return d.writing fun b => (b.dedent.write "</View>").newline
      else return d.writeText key n

def Draft.writeNodes (options : ComponentOptions) : List Node → Draft → Except EmitFailure Draft
  | [], d => .ok d
  | n :: rest, d => do
      let d ← Draft.writeNode options n d
      Draft.writeNodes options rest d
end

/-! ## Functions -/

def ExportStyle.keywords : ExportStyle → String
  | .named => "export function "
  | .default => "export default function "

def Draft.writeFunction (options : ComponentOptions) (design : Design) (d : Draft) :
    Except EmitFailure Draft := do
  let root := design.root
  let d := d.writing fun b =>
    (b.write options.exportStyle.keywords |>.write (pascalName root.name)
      |>.write "() ").openBlock
  let d := d.writeStateHooks design
  let d ←
    if root.isEmptyComponent options then pure (d.reporting [.emptyComponent root.name])
    else do
      let d := d.writing fun b => (b.write "return (").newline.indent
      let d ← d.writeNode options root
      pure (d.writing fun b => (b.dedent.write ");").newline)
  return d.writing CodeBuffer.closeBlock

end Viewsmith
