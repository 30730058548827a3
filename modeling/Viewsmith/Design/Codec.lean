import Viewsmith.Design.Document
import Viewsmith.Json.Decoder
import Viewsmith.Json.Encoder

/-!
# Design documents as text

Reading and writing of design documents. What a node does not have is left out when it is written,
and may be left out when it is read; only its kind and name are required. A layout mode is always
written.
-/

namespace Viewsmith

open Json

/-! ## Reading -/

/-- Decodes a number or a text. The value is read whole before its kind is looked at. -/
def decodeLiteral : Decoder Literal := fun limit v =>
  match v.data limit with
  | .ok (.number n) => .ok (.number n.toFloat)
  | .ok (.string s) => .ok (.text s)
  | .ok _ => .error (.mismatch (.noAlternative "Literal"))
  | .error fault => .error (.fault fault)

def decodeKind : Decoder NodeKind := fun limit v => do
  let tag ← Json.string limit v
  match NodeKind.ofTag? tag with
  | some kind => .ok kind
  | none => .error (.mismatch (.refused (UnknownNodeKind.mk tag).message))

def decodeLayout : Decoder LayoutMode := oneOf LayoutMode.name LayoutMode.all

def pageFields : List Field := [⟨"name", String, Json.string, none⟩]

def decodePage : Decoder String := fun limit v => do
  let (name, ()) ← record "struct PageRef" pageFields limit v
  return name

def nodeFields (decodeChild : Decoder Node) : List Field :=
  [⟨"type", NodeKind, decodeKind, none⟩,
   ⟨"name", String, Json.string, none⟩,
   ⟨"page", Option String, optional decodePage, some none⟩,
   ⟨"layout", LayoutMode, decodeLayout, some .none⟩,
   ⟨"children", List Node, sequence decodeChild, some []⟩,
   ⟨"styles", Declarations, orderedMap decodeLiteral, some .empty⟩,
   ⟨"characters", Option String, optional Json.string, some none⟩]

def decodeNodeWith (decodeChild : Decoder Node) : Decoder Node := fun limit v => do
  let (kind, name, page, layout, children, styles, characters, ()) ←
    record "struct Node" (nodeFields decodeChild) limit v
  return { kind, name, page, layout, children, styles, characters }

/-- Decodes a node. Its children stand in two more lists than the node itself, so the nesting limit
bounds the depth of the tree. -/
def decodeNode : Decoder Node
  | limit + 2, v => decodeNodeWith (fun _ => decodeNode limit) (limit + 2) v
  | limit, v => decodeNodeWith (fun _ _ => .error (.fault .malformed)) limit v

def stateEntryFields : List Field :=
  [⟨"name", String, Json.string, none⟩, ⟨"value", Literal, decodeLiteral, none⟩]

/-- Decodes a state entry, a pair of a name and a value. -/
def decodeStateEntry : Decoder StateEntry := fun limit v => do
  let (name, value, ()) ← tuple "tuple struct StateEntry" stateEntryFields limit v
  return { name, value }

def decodeLocalState : Decoder LocalState :=
  orderedMap (orderedMap (sequence decodeStateEntry))

def rootFields : List Field := [⟨"node", Node, decodeNode, none⟩]

def decodeRoot : Decoder Node := fun limit v => do
  let (node, ()) ← record "struct ParseRoot" rootFields limit v
  return node

def designFields : List Field :=
  [⟨"root", Node, decodeRoot, none⟩,
   ⟨"localState", Option LocalState, optional decodeLocalState, some none⟩]

def decodeDesign : Decoder Design := fun limit v => do
  let (root, localState, ()) ← record "struct ParseData" designFields limit v
  return { root, localState }

def Design.parse (text : String) : Decoded Design := decodeText decodeDesign text

/-! ## Writing -/

def Literal.encode : Literal → List Char
  | .number x => (Decimal.documentText x).toList
  | .text s => quoted s

def encodeMap {α : Type} (encode : α → List Char) (m : OrderedMap α) : List Char :=
  objectText (m.entries.map fun e => (e.1, encode e.2))

/-- Writes a member unless it has its default. -/
def memberUnless (omitted : Bool) (name : String) (text : List Char) :
    List (String × List Char) :=
  if omitted then [] else [(name, text)]

def optionalMember {α : Type} (name : String) (encode : α → List Char) :
    Option α → List (String × List Char)
  | none => []
  | some x => [(name, encode x)]

def encodePage (name : String) : List Char := objectText [("name", quoted name)]

mutual
def Node.encode : Node → List Char
  | ⟨kind, name, page, layout, children, styles, characters⟩ =>
      objectText <|
        [("type", quoted kind.tag), ("name", quoted name)]
          ++ optionalMember "page" encodePage page
          ++ [("layout", quoted layout.name)]
          ++ memberUnless children.isEmpty "children" (arrayText (encodeNodes children))
          ++ memberUnless styles.isEmpty "styles" (encodeMap Literal.encode styles)
          ++ optionalMember "characters" quoted characters

def encodeNodes : List Node → List (List Char)
  | [] => []
  | n :: rest => n.encode :: encodeNodes rest
end

def StateEntry.encode (e : StateEntry) : List Char := arrayText [quoted e.name, e.value.encode]

def encodeLocalState (state : LocalState) : List Char :=
  encodeMap (encodeMap fun entries => arrayText (entries.map StateEntry.encode)) state

def Design.encode (d : Design) : List Char :=
  objectText <|
    ("root", objectText [("node", d.root.encode)])
      :: optionalMember "localState" encodeLocalState d.localState

def Design.toJson (d : Design) : String := String.ofList d.encode

def Node.toJson (n : Node) : String := String.ofList n.encode

end Viewsmith
