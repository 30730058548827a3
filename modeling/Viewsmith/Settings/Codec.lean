import Viewsmith.Json.Decoder
import Viewsmith.Json.Encoder
import Viewsmith.Settings.Options

/-!
# Settings as text

Any field of the settings may be left out; it then has its default. All fields are written.
-/

namespace Viewsmith

open Json

/-! ## Reading -/

def writerFields : List Field :=
  let defaults : WriterOptions := {}
  [⟨"indentNumberOfSpaces", Nat, size, some defaults.indentSpaces⟩,
   ⟨"useTabs", Bool, boolean, some defaults.useTabs⟩,
   ⟨"quoteStyle", QuoteStyle, oneOf QuoteStyle.name QuoteStyle.all, some defaults.quoteStyle⟩,
   ⟨"newLine", LineEnd, oneOf LineEnd.text LineEnd.all, some defaults.lineEnd⟩]

def decodeWriterOptions : Decoder WriterOptions := fun limit v => do
  let (indentSpaces, useTabs, quoteStyle, lineEnd, ()) ←
    record "struct WriterOptions" writerFields limit v
  return { indentSpaces, useTabs, quoteStyle, lineEnd }

def componentFields : List Field :=
  let defaults : ComponentOptions := {}
  [⟨"exportStyle", ExportStyle, oneOf ExportStyle.name ExportStyle.all,
    some defaults.exportStyle⟩,
   ⟨"stylePrefix", String, Json.string, some defaults.stylePrefix⟩,
   ⟨"rowFromLayout", Bool, boolean, some defaults.rowFromLayout⟩]

def decodeComponentOptions : Decoder ComponentOptions := fun limit v => do
  let (exportStyle, stylePrefix, rowFromLayout, ()) ←
    record "struct ComponentOptions" componentFields limit v
  return { exportStyle, stylePrefix, rowFromLayout }

def settingsFields : List Field :=
  [⟨"writer", WriterOptions, decodeWriterOptions, some {}⟩,
   ⟨"component", ComponentOptions, decodeComponentOptions, some {}⟩]

def decodeSettings : Decoder Settings := fun limit v => do
  let (writer, component, ()) ← record "struct Settings" settingsFields limit v
  return { writer, component }

def Settings.parse (text : String) : Decoded Settings := decodeText decodeSettings text

/-! ## Writing -/

def WriterOptions.encode (o : WriterOptions) : List Char :=
  objectText
    [("indentNumberOfSpaces", (toString o.indentSpaces).toList),
     ("useTabs", boolText o.useTabs),
     ("quoteStyle", quoted o.quoteStyle.name),
     ("newLine", quoted o.lineEnd.text)]

def ComponentOptions.encode (o : ComponentOptions) : List Char :=
  objectText
    [("exportStyle", quoted o.exportStyle.name),
     ("stylePrefix", quoted o.stylePrefix),
     ("rowFromLayout", boolText o.rowFromLayout)]

def Settings.encode (s : Settings) : List Char :=
  objectText [("writer", s.writer.encode), ("component", s.component.encode)]

def Settings.toJson (s : Settings) : String := String.ofList s.encode

end Viewsmith
