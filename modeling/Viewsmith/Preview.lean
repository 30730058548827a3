import Viewsmith.Template.Render

/-!
# Preview entries

A preview entry is a module that holds a generated component and mounts it, behind an error
boundary, on an element of a page. Its own bindings begin with two underscores, which no identifier
made from a label does.
-/

namespace Viewsmith

open Json

/-- The element that a preview mounts on unless another is asked for. -/
def defaultRootTag : String := "component"

def previewLines : List String :=
  ["import __SprigReact from 'react';",
   "import \x7bAppRegistry as __SprigAppRegistry\x7d from 'react-native';",
   "",
   "\x7b\x7b\x7bcode\x7d\x7d\x7d",
   "const __sprigFallbackStyle = \x7bcolor: 'red'\x7d;",
   "",
   "export function __SprigMain() \x7b",
   "  return (",
   "    <__SprigErrorBoundary fallback=\x7b<pre style=\x7b__sprigFallbackStyle\x7d>"
     ++ "Component error. Check console.</pre>\x7d>",
   "      <\x7b\x7bpascal_case component\x7d\x7d />",
   "    </__SprigErrorBoundary>",
   "  );",
   "\x7d",
   "",
   "__SprigAppRegistry.registerComponent('main', () => __SprigMain);",
   "__SprigAppRegistry.runApplication('main', \x7b",
   "  rootTag: document.getElementById('\x7b\x7broot_tag\x7d\x7d'),",
   "\x7d);",
   "",
   "class __SprigErrorBoundary extends __SprigReact.Component \x7b",
   "  constructor(props) \x7b",
   "    super(props);",
   "    this.state = \x7bhasError: false\x7d;",
   "  \x7d",
   "",
   "  static getDerivedStateFromError() \x7b",
   "    return \x7bhasError: true\x7d;",
   "  \x7d",
   "",
   "  componentDidCatch(error, info) \x7b",
   "    console.error(error, info.componentStack);",
   "  \x7d",
   "",
   "  render() \x7b",
   "    if (this.state.hasError)",
   "      return this.props.fallback;",
   "    return this.props.children;",
   "  \x7d",
   "\x7d"]

def previewChars : List Char := previewLines.flatMap fun line => line.toList ++ ['\n']

def previewContext (code component rootTag : String) : Data :=
  .object [("code", .string code), ("component", .string component), ("root_tag", .string rootTag)]

inductive PreviewError : Type where
  | badTemplate
  | render (error : RenderError)
deriving DecidableEq, Repr

def PreviewError.message : PreviewError → String
  | badTemplate => "Invalid template"
  | render e => "Template error: " ++ e.message

def renderTemplate (template : Option Template) (context : Data) : Except PreviewError String :=
  match template with
  | none => .error .badTemplate
  | some template =>
      match template.render context with
      | .ok text => .ok text
      | .error e => .error (.render e)

/-- The preview entry of generated code whose root is called `component`. -/
def renderPreview (code component rootTag : String) : Except PreviewError String :=
  renderTemplate (Template.ofChars? previewChars) (previewContext code component rootTag)

end Viewsmith
