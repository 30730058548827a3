import Viewsmith.Design.Layout

/-!
# Log events

What a run reports beside its result. An event has a level, a message and named fields.
-/

namespace Viewsmith

inductive LogLevel : Type where
  | trace
  | debug
  | info
  | warn
deriving DecidableEq, Repr

def LogLevel.name : LogLevel → String
  | .trace => "TRACE"
  | .debug => "DEBUG"
  | .info => "INFO"
  | .warn => "WARN"

inductive LogValue : Type where
  | text (s : String)
  | count (n : Nat)
deriving DecidableEq, Repr

inductive LogEvent : Type where
  | sanitizedPrefix (raw sanitized : String)
  | newStyle (node key : String)
  | noPage (component : String)
  | duplicateState (component state : String)
  | emptyComponent (component : String)
  | element (node : String) (kind : NodeKind) (layout : LayoutClass)
  | ignoredChildren (node : String)
  | generated (primitives styleEntries bytes : Nat)
  | wroteFile (path : String) (bytes : Nat)
deriving DecidableEq, Repr

namespace LogEvent

def level : LogEvent → LogLevel
  | sanitizedPrefix .. | duplicateState .. | ignoredChildren .. => .warn
  | newStyle .. | element .. => .trace
  | noPage .. | emptyComponent .. | generated .. => .debug
  | wroteFile .. => .info

def message : LogEvent → String
  | sanitizedPrefix .. => "style prefix is not an identifier, sanitized"
  | newStyle .. => "new style entry"
  | noPage .. => "root has no page, skipping local state"
  | duplicateState .. => "duplicate local state name, generated bindings will collide"
  | emptyComponent .. => "empty component, no markup"
  | element .. => "emit node"
  | ignoredChildren .. => "text node has children, ignoring them"
  | generated .. => "generated component"
  | wroteFile .. => "wrote component"

def fields : LogEvent → List (String × LogValue)
  | sanitizedPrefix raw sanitized => [("raw", .text raw), ("prefix", .text sanitized)]
  | newStyle node key => [("node", .text node), ("key", .text key)]
  | noPage component => [("component", .text component)]
  | duplicateState component state => [("component", .text component), ("state", .text state)]
  | emptyComponent component => [("component", .text component)]
  | element node kind layout =>
      [("node", .text node), ("kind", .text kind.tag), ("layout", .text layout.name)]
  | ignoredChildren node => [("node", .text node)]
  | generated primitives styleEntries bytes =>
      [("primitives", .count primitives), ("style_entries", .count styleEntries),
       ("bytes", .count bytes)]
  | wroteFile path bytes => [("path", .text path), ("bytes", .count bytes)]

def isWarning (e : LogEvent) : Bool := e.level = .warn

end LogEvent

end Viewsmith
