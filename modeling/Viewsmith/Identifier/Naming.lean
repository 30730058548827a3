import Viewsmith.Identifier.Words
import Viewsmith.Unicode.Numbers

/-!
# Identifiers from labels

Labels become identifiers of the generated module: camel case for bindings and style prefixes,
Pascal case for components. The mapping is a function of the label alone; two labels that differ
only in their separators share an identifier.
-/

namespace Viewsmith

open Unicode

/-- Words that cannot be bound in a module, and the names that a generated module binds itself. -/
def reservedWords : List String :=
  ["await", "break", "case", "catch", "class", "const", "continue", "debugger",
   "default", "delete", "do", "else", "enum", "export", "extends", "false",
   "finally", "for", "function", "if", "implements", "import", "in",
   "instanceof", "interface", "let", "new", "null", "package", "private",
   "protected", "public", "return", "static", "super", "switch", "this",
   "throw", "true", "try", "typeof", "var", "void", "while", "with", "yield",
   "arguments", "eval", "undefined", "NaN", "Infinity",
   "styles", "useState", "StyleSheet", "Text", "View"]

/-- A word with its first character in upper case and the others in lower case. -/
def capitalize : List Char → List Char
  | [] => []
  | c :: rest => upperChar c ++ lower rest

def pascalWords (words : List (List Char)) : List Char := words.flatMap capitalize

def camelWords : List (List Char) → List Char
  | [] => []
  | word :: rest => lower word ++ pascalWords rest

/-- Makes joined words a name that can be bound: never empty, never numeric at the start, never a
reserved word. -/
def bindable (name : List Char) : String :=
  match name with
  | [] => "_"
  | c :: _ =>
      let name := String.ofList (if isNumeric c then '_' :: name else name)
      if reservedWords.contains name then name ++ "_" else name

/-- The camel-case identifier of a label: `set_count` gives `setCount`. -/
def camelName (label : String) : String := bindable (camelWords (labelWords label.toList))

/-- The Pascal-case identifier of a label: `my card` gives `MyCard`. -/
def pascalName (label : String) : String := bindable (pascalWords (labelWords label.toList))

/-! ## Object keys -/

def startsKey (c : Char) : Bool := c.isAlpha || c == '_' || c == '$'

def continuesKey (c : Char) : Bool := c.isAlphanum || c == '_' || c == '$'

/-- Whether a name can be written as an object key without quotes. -/
def isPlainKey (name : String) : Bool :=
  match name.toList with
  | [] => false
  | c :: rest => startsKey c && rest.all continuesKey

end Viewsmith
