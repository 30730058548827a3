import Viewsmith.Code.Imports
import Viewsmith.Identifier.Naming
import Viewsmith.Log
import Viewsmith.Text.Order
import Viewsmith.Text.Shown

/-!
# Style tables

Nodes with the same declarations share one entry of the style table. Declarations are compared by
their signature, a text that lists them in the order of their properties, so the order in which a
node declares them does not matter. Entries are numbered in the order in which their declarations
were first seen.
-/

namespace Viewsmith

/-! ## Invalid styles -/

inductive StyleFault : Type where
  | emptyProperty
  | notFinite (value : Float)
deriving DecidableEq

def StyleFault.message : StyleFault → String
  | .emptyProperty => "property name is empty"
  | .notFinite x => Decimal.messageText x ++ " is not a finite number"

structure InvalidStyle : Type where
  node : String
  property : String
  fault : StyleFault
deriving DecidableEq

def InvalidStyle.message (e : InvalidStyle) : String :=
  s!"Invalid style '{e.property}' on node '{e.node}': {e.fault.message}"

/-! ## Signatures -/

/-- Declarations in the order of their properties. -/
def sortDeclarations (entries : List (String × Literal)) : List (String × Literal) :=
  sortByKey Prod.fst entries

/-- The fault of a declaration, if it has one. The property is looked at before the value. -/
def declarationFault? (property : String) (value : Literal) : Option StyleFault :=
  if property.isEmpty then some .emptyProperty
  else
    match value with
    | .number x => if x.isFinite then none else some (.notFinite x)
    | .text _ => none

def firstFault? (declarations : List (String × Literal)) : Option (String × StyleFault) :=
  declarations.findSome? fun d => (declarationFault? d.1 d.2).map fun fault => (d.1, fault)

/-- The text of a value in a signature. Texts are quoted, so they differ from numbers. -/
def signatureValue : Literal → String
  | .number x => Decimal.codeText x
  | .text s => Shown.quote s

def signature (declarations : List (String × Literal)) : String :=
  String.join (declarations.map fun d => Shown.quote d.1 ++ "=" ++ signatureValue d.2 ++ ";")

/-! ## Tables -/

structure StyleEntry : Type where
  key : String
  declarations : List (String × Literal)
deriving DecidableEq

/-- A style table. Its rows are filed under the signatures of their declarations. -/
structure StyleTable : Type where
  keyPrefix : String
  rows : OrderedMap StyleEntry

def stylesName : String := "styles"

def styleReference (key : String) : String := stylesName ++ "." ++ key

namespace StyleTable

/-- An empty table whose keys begin with the identifier of a label. -/
def new (label : String) : StyleTable := ⟨camelName label, .empty⟩

/-- The event of making a table: a label that is no identifier is reported. -/
def newEvents (label : String) : List LogEvent :=
  if camelName label = label then [] else [.sanitizedPrefix label (camelName label)]

/-- The entries, in the order in which they were first seen. -/
def entries (t : StyleTable) : List StyleEntry := t.rows.entries.map Prod.snd

def size (t : StyleTable) : Nat := t.rows.entries.length

def isEmpty (t : StyleTable) : Bool := t.rows.isEmpty

def nextKey (t : StyleTable) : String := t.keyPrefix ++ "_" ++ toString t.size

/-- What registering declarations yields: the key of their entry, the table that has the entry, and
the events. -/
structure Registration : Type where
  key : Option String
  table : StyleTable
  events : List LogEvent

/-- A registration that failed: what was refused, and the table as it was left. -/
structure RegistrationFailure : Type where
  error : InvalidStyle
  table : StyleTable

instance : Coe RegistrationFailure InvalidStyle := ⟨RegistrationFailure.error⟩

/-- Finds or adds the entry of a node's declarations. A node without declarations needs none. -/
def register (t : StyleTable) (node : String) (declarations : Declarations) :
    Except RegistrationFailure Registration :=
  if declarations.isEmpty then .ok ⟨none, t, []⟩
  else
    let sorted := sortDeclarations declarations.entries
    match firstFault? sorted with
    | some (property, fault) => .error ⟨⟨node, property, fault⟩, t⟩
    | none =>
        match t.rows.find? (signature sorted) with
        | some entry => .ok ⟨some entry.key, t, []⟩
        | none =>
            let key := t.nextKey
            .ok
              { key := some key
                table := { t with rows := t.rows.insert (signature sorted) ⟨key, sorted⟩ }
                events := [.newStyle node key] }

end StyleTable

/-! ## Writing -/

/-- Writes an object key, bare if it can be. -/
def writeKey (b : CodeBuffer) (property : String) : CodeBuffer :=
  if isPlainKey property then b.write property else b.quote property

def writeDeclaration (b : CodeBuffer) (d : String × Literal) : CodeBuffer :=
  (((writeKey b d.1).write ": ").literal d.2 |>.write ",").newline

def writeStyleEntry (b : CodeBuffer) (e : StyleEntry) : CodeBuffer :=
  let b := (b.write e.key |>.write ": ").openBlock
  let b := e.declarations.foldl writeDeclaration b
  (b.closeBlock.write ",").newline

/-- Writes the declaration of the style table. An empty table is a plain object and needs no
import. -/
def StyleTable.writeSheet (t : StyleTable) (b : CodeBuffer) (imports : ImportSet) :
    CodeBuffer × ImportSet :=
  let b := b.write "const " |>.write stylesName |>.write " = "
  if t.isEmpty then (b.write "\x7b\x7d;", imports)
  else
    let b := (b.write "StyleSheet.create(").openBlock
    let b := t.entries.foldl writeStyleEntry b
    (b.closeBlock.write ");", imports.insert .styleSheet)

end Viewsmith
