import Viewsmith.Code.Styles

/-!
# Drafts

The state of one generation run: the code of the component so far, the symbols it mentions, the
style table it refers to, and the events.
-/

namespace Viewsmith

/-- A component under construction. -/
structure Draft : Type where
  code : CodeBuffer
  imports : ImportSet
  styles : StyleTable
  log : List LogEvent

namespace Draft

def new (settings : Settings) : Draft :=
  { code := .new settings.writer
    imports := .empty
    styles := .new settings.component.stylePrefix
    log := [] }

def writing (d : Draft) (f : CodeBuffer → CodeBuffer) : Draft := { d with code := f d.code }

def mentioning (d : Draft) (p : Primitive) : Draft := { d with imports := d.imports.insert p }

def reporting (d : Draft) (events : List LogEvent) : Draft := { d with log := d.log ++ events }

end Draft

end Viewsmith
