import Viewsmith.Identifier.Naming
import Viewsmith.Json.Data
import Viewsmith.OrderedMap
import Viewsmith.Template.Syntax
import Viewsmith.Text.Shown

/-!
# Rendering templates

A template is rendered in a context, a value of a document. Values are inserted without escaping. A
tag whose path leads nowhere is an error, except as an argument of a helper. A path that goes into
an array by something else than a number is always one.
-/

namespace Viewsmith

open Json

inductive RenderError : Type where
  | templateNotFound (name : String)
  | missingVariable (path : String)
  | notAnIndex (name : String)   -- the name of an item of an array that is no number
  | helperNotFound (name : String)
deriving DecidableEq, Repr

def RenderError.message : RenderError → String
  | templateNotFound name => "Template not found " ++ name
  | missingVariable path =>
      "Failed to access variable in strict mode Some(" ++ Shown.quote path ++ ")"
  | notAnIndex name => "Cannot access array/vector with string index, " ++ name
  | helperNotFound name => "Helper not found " ++ name

/-! ## Values -/

/-- The value of the last member of a name. -/
def lastMember? (name : String) (members : List (String × Data)) : Option Data :=
  members.foldl (fun found m => if m.1 = name then some m.2 else found) none

def itemIndex? (name : List Char) : Option Nat :=
  let index := Decimal.digitsValue name
  if name.all Char.isDigit && index < wordLimit then some index else none

/-- The value that a name leads to, if there is one: a member of an object or an item of an
array. -/
def Json.Data.child? (name : List Char) : Data → Except RenderError (Option Data)
  | .object members => .ok (lastMember? (String.ofList name) members)
  | .array items =>
      match itemIndex? name with
      | some index => .ok items[index]?
      | none => .error (.notAnIndex (String.ofList name))
  | _ => .ok none

/-- The name that stands for the value that it is looked up in. -/
def selfName : List Char := ['t', 'h', 'i', 's']

def Json.Data.at? (d : Data) (path : String) : Except RenderError (Option Data) :=
  let step (found : Option Data) (name : List Char) : Except RenderError (Option Data) :=
    match found with
    | some d => d.child? name
    | none => .ok none
  ((Template.pathNames path.toList).filter (· ≠ selfName)).foldlM step (some d)

mutual
def Json.Data.render : Data → String
  | .null => ""
  | .bool b => toString b
  | .number n => n.text
  | .string s => s
  | .array items => "[" ++ ", ".intercalate (renderItems items) ++ "]"
  | .object _ => "[object]"

def renderItems : List Data → List String
  | [] => []
  | d :: rest => d.render :: renderItems rest
end

/-! ## Templates -/

def Argument.value? (context : Data) : Argument → Except RenderError (Option Data)
  | .path p => context.at? p
  | .text s => .ok (some (.string s))
  | .scalar => .ok (some .null)

/-- What the naming helper makes of its first argument: the component name of a text, and of
anything else the name of an empty label. -/
def pascalArgument : List (Option Data) → String
  | some (.string s) :: _ => pascalName s
  | _ => pascalName ""

/-- Renders a segment. The arguments of a call are evaluated first. -/
def Segment.render (context : Data) : Segment → Except RenderError String
  | .text chars => .ok (String.ofList chars)
  | .value path => do
      match ← context.at? path with
      | some d => return d.render
      | none => .error (.missingVariable path)
  | .call helper arguments => do
      let values ← arguments.mapM (·.value? context)
      if helper = Template.pascalHelper then return pascalArgument values
      else .error (.helperNotFound helper)

def Template.render (t : Template) (context : Data) : Except RenderError String := do
  let parts ← t.mapM (·.render context)
  return String.join parts

/-! ## Template stores -/

abbrev TemplateStore : Type := OrderedMap Template

/-- Files the template that a text writes under a name, in place of an earlier one. A text that is
no template leaves the store without a successor. -/
def TemplateStore.register? (s : TemplateStore) (name text : String) : Option TemplateStore :=
  (Template.parse? text).map (OrderedMap.insert s name)

def TemplateStore.render (s : TemplateStore) (name : String) (context : Data) :
    Except RenderError String :=
  match OrderedMap.find? s name with
  | some t => t.render context
  | none => .error (.templateNotFound name)

end Viewsmith
