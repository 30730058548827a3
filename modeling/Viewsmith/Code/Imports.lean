import Viewsmith.Code.Buffer
import Viewsmith.Text.Order

/-!
# Imports of a generated module

While code is written, every symbol of the framework that it mentions is noted; the import
statements are written last, from these notes. A host may note symbols by name, and a name that the
framework does not export is kept and refused when the statements are written.
-/

namespace Viewsmith

inductive Package : Type where
  | react
  | reactNative
deriving DecidableEq, Repr

def Package.path : Package → String
  | .react => "react"
  | .reactNative => "react-native"

/-- All packages, in the order of their statements. -/
def Package.all : List Package := [.react, .reactNative]

/-- The symbols of the framework that generated code may mention. -/
inductive Primitive : Type where
  | useState
  | view
  | text
  | styleSheet
deriving DecidableEq, Repr

namespace Primitive

def all : List Primitive := [useState, view, text, styleSheet]

def package : Primitive → Package
  | useState => .react
  | view | text | styleSheet => .reactNative

def symbol : Primitive → String
  | useState => "useState"
  | view => "View"
  | text => "Text"
  | styleSheet => "StyleSheet"

def qualifiedName (p : Primitive) : String := p.package.path ++ "." ++ p.symbol

def ofNames? (path symbol : String) : Option Primitive :=
  all.find? fun p => p.package.path = path ∧ p.symbol = symbol

end Primitive

structure UnknownImport : Type where
  path : String
  symbol : String
deriving DecidableEq, Repr

def UnknownImport.message (e : UnknownImport) : String :=
  s!"Unknown import '{e.symbol}' from module '{e.path}'"

/-- Statements that could not be written: what was refused, and the buffer as it was left. -/
structure ImportFailure : Type where
  error : UnknownImport
  buffer : CodeBuffer

instance : Coe ImportFailure UnknownImport := ⟨ImportFailure.error⟩

/-- The symbols noted so far. -/
structure ImportSet : Type where
  used : Primitive → Bool
  unknown : List UnknownImport

namespace ImportSet

def empty : ImportSet := ⟨fun _ => false, []⟩

def insert (s : ImportSet) (p : Primitive) : ImportSet :=
  { s with used := fun q => q == p || s.used q }

/-- Notes a symbol by name. An unknown pair is kept once. -/
def insertNamed (s : ImportSet) (path symbol : String) : ImportSet :=
  match Primitive.ofNames? path symbol with
  | some p => s.insert p
  | none =>
      let pair : UnknownImport := ⟨path, symbol⟩
      if s.unknown.contains pair then s else { s with unknown := s.unknown ++ [pair] }

def toList (s : ImportSet) : List Primitive := Primitive.all.filter s.used

def size (s : ImportSet) : Nat := s.toList.length

def isEmpty (s : ImportSet) : Bool := s.toList.isEmpty && s.unknown.isEmpty

/-- The noted symbols of a package, in lexicographic order. -/
def symbols (s : ImportSet) (package : Package) : List String :=
  sortByKey id ((s.toList.filter fun p => p.package = package).map Primitive.symbol)

/-- Writes the import statement of a package, if one of its symbols is noted. -/
def writePackage (s : ImportSet) (b : CodeBuffer) (package : Package) : CodeBuffer :=
  match s.symbols package with
  | [] => b
  | symbols =>
      (b.write "import \x7b" |>.write (", ".intercalate symbols) |>.write "\x7d from "
        |>.quote package.path |>.write ";").newline

/-- Writes the import statements, unless an unknown symbol was noted. -/
def writeStatements (s : ImportSet) (b : CodeBuffer) : Except ImportFailure CodeBuffer :=
  match s.unknown with
  | e :: _ => .error ⟨e, b⟩
  | [] => .ok (Package.all.foldl s.writePackage b)

end ImportSet

end Viewsmith
