import Viewsmith.Code.Draft
import Viewsmith.Design.Document

/-!
# State hooks

A component declares one state hook for each of its state entries, in their order. Entries of one
name are all declared, though their bindings collide; the repetition is reported.
-/

namespace Viewsmith

def getterName (state : String) : String := camelName state

def setterName (state : String) : String := camelName ("set_" ++ state)

def writeHook (b : CodeBuffer) (e : StateEntry) : CodeBuffer :=
  ((b.write "const [" |>.write (getterName e.name) |>.write ", " |>.write (setterName e.name)
    |>.write "] = useState(").literal e.value |>.write ");").newline

/-- Writes the hooks of state entries; `seen` holds the names of the entries before. -/
def Draft.writeHooks (component : String) : List String → List StateEntry → Draft → Draft
  | _, [], d => d
  | seen, e :: rest, d =>
      let repeated := if seen.contains e.name then [.duplicateState component e.name] else []
      let d := ((d.reporting repeated).writing (writeHook · e)).mentioning .useState
      writeHooks component (e.name :: seen) rest d

/-- Writes the hooks of the root of a design. A root without a page has no state. -/
def Draft.writeStateHooks (design : Design) (d : Draft) : Draft :=
  let root := design.root
  match root.page with
  | none => d.reporting [.noPage root.name]
  | some page =>
      match design.stateFor page root.name with
      | none => d
      | some entries => d.writeHooks root.name [] entries

end Viewsmith
