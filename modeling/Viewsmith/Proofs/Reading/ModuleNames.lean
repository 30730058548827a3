import Mathlib.Data.List.Nodup
import Mathlib.Data.List.Perm.Basic
import Viewsmith.Proofs.Identifier.Reserved
import Viewsmith.Proofs.Reading.OuterNames

/-!
# Names of a module

A generated module declares what it imports, the component and the style table, and a preview declares
these and five names of its own. The names that come from labels are the component and the bindings of
the hooks. None of them is another name of the module, since every other name is a reserved word or
begins with two underscores (`names_of_generate`).
-/

namespace Viewsmith

open Template

/-! ## Lines of the template -/

def visibleLines (lines : List String) : List (List Char) :=
  lines.map fun line => visibleText line.toList

/-- Whether lines that stand in `depth` blocks declare names and are followed by what stands in `inner`
blocks. -/
structure Declares (depth : Nat) (lines names : List String) (inner : Nat) : Prop where
  oneLine : ∀ line ∈ lines, '\n' ∉ line.toList
  read : outerNames depth (visibleLines lines) = (names, inner)

section

variable {depth inner : Nat} {lines names : List String}

/-- What lines declare can be read off their characters. -/
theorem declares_of_chars (chars : List (List Char)) (written : lines = chars.map String.ofList)
    (read : (∀ cs ∈ chars, '\n' ∉ cs) ∧ outerNames depth (chars.map visibleText) = (names, inner)) :
    Declares depth lines names inner where
  oneLine := by
    rw [written, List.forall_mem_map]
    intro cs inside
    rw [String.toList_ofList]
    exact read.1 cs inside
  read := by
    rw [← read.2, written, visibleLines, List.map_map]
    congr 2
    funext cs
    exact congrArg visibleText String.toList_ofList

theorem lineTexts_lineChars (oneLine : ∀ line ∈ lines, '\n' ∉ line.toList) (rest : List Char) :
    lineTexts (lineChars lines ++ rest) = visibleLines lines ++ lineTexts rest := by
  induction lines with
  | nil => rfl
  | cons line more ih =>
      rw [List.forall_mem_cons] at oneLine
      rw [lineChars, List.flatMap_cons, List.append_assoc, List.append_assoc, List.singleton_append,
        lineTexts_cons oneLine.1, ← lineChars, ih oneLine.2]
      rfl

end

theorem declares_opening :
    Declares 0 (previewLines.take 3) ["__SprigReact", "__SprigAppRegistry"] 0 :=
  declares_of_chars [_, _, _] rfl (by decide +kernel)

theorem declares_mounting :
    Declares 0 ((previewLines.drop 4).take 5) ["__sprigFallbackStyle", "__SprigMain"] 2 := by
  have written : (previewLines.drop 4).take 5 = [String.ofList _, String.ofList _, String.ofList _,
      String.ofList _, String.ofList _ ++ String.ofList _] := rfl
  rw [← String.ofList_append] at written
  exact declares_of_chars [_, _, _, _, _] written (by decide +kernel)

theorem declares_running : Declares 2 ((previewLines.drop 10).take 6) [] 1 :=
  declares_of_chars [_, _, _, _, _, _] rfl (by decide +kernel)

theorem declares_closing : Declares 1 (previewLines.drop 17) ["__SprigErrorBoundary"] 0 :=
  declares_of_chars [_, _, _, _, _, _, _, _, _, _, _, _, _, _, _, _, _, _, _, _, _, _] rfl
    (by decide +kernel)

/-! ## Lines of a preview -/

/-- The texts of the lines of a preview: those of the template, with the lines of the code, the
component and the root tag between them. -/
def previewTexts (code : List (List Char)) (component rootTag : List Char) : List (List Char) :=
  visibleLines (previewLines.take 3) ++ code ++ visibleLines ((previewLines.drop 4).take 5) ++ [component]
    ++ visibleLines ((previewLines.drop 10).take 6) ++ [rootTag] ++ visibleLines (previewLines.drop 17)

/-- A preview declares what the code in it declares, between names of its own. -/
theorem outerNames_previewTexts {code : List (List Char)} {component rootTag : List Char}
    {names : List String} (read : outerNames 0 code = (names, 0)) (element : IsPlain component)
    (call : IsPlain rootTag) :
    outerNames 0 (previewTexts code component rootTag)
      = (["__SprigReact", "__SprigAppRegistry"] ++ names
          ++ ["__sprigFallbackStyle", "__SprigMain", "__SprigErrorBoundary"], 0) := by
  simp only [previewTexts, List.append_assoc]
  rw [outerNames_append _ _ declares_opening.read, outerNames_append _ _ read,
    outerNames_append _ _ declares_mounting.read, outerNames_append _ _ (isInner_plain element 1),
    outerNames_append _ _ declares_running.read, outerNames_append _ _ (isInner_plain call 0),
    declares_closing.read]
  rfl

theorem isPlain_line {chars : List Char} (plain : IsPlain (visibleText chars)) :
    IsPlain (visibleText (String.ofList chars).toList) := by
  rwa [String.toList_ofList]

def previewNames : List String := (outerNames 0 (visibleLines previewLines)).1

theorem previewNames_eq : previewNames = ["__SprigReact", "__SprigAppRegistry", "__sprigFallbackStyle",
    "__SprigMain", "__SprigErrorBoundary"] := by
  have lines : visibleLines previewLines
      = previewTexts [visibleText "\x7b\x7b\x7bcode\x7d\x7d\x7d".toList]
        (visibleText "      <\x7b\x7bpascal_case component\x7d\x7d />".toList)
        (visibleText "  rootTag: document.getElementById('\x7b\x7broot_tag\x7d\x7d'),".toList) := by
    rw [previewLines_eq]
    simp only [previewTexts, visibleLines, List.map_append, List.map_cons, List.append_assoc,
      List.cons_append, List.nil_append]
  have nothing : outerNames 0 [visibleText "\x7b\x7b\x7bcode\x7d\x7d\x7d".toList] = ([], 0) := by
    decide +kernel
  rw [previewNames, lines, outerNames_previewTexts nothing (isPlain_line (by decide +kernel))
    (isPlain_line (by decide +kernel))]
  rfl

/-- The names that the template declares are set apart from all others. -/
theorem underscores_of_mem_previewNames : ∀ name ∈ previewNames, "__".toList <+: name.toList := by
  rw [previewNames_eq]
  decide

theorem visibleText_append {front : List Char} (seen : visibleText front ≠ []) (back : List Char) :
    visibleText (front ++ back) = visibleText front ++ back.filter (· ≠ '\r') := by
  have begun : ¬ (front.dropWhile isLayout).isEmpty = true := by
    rw [List.isEmpty_iff]
    intro none
    apply seen
    rw [visibleText, skipLayout, none, List.filter_nil]
  rw [visibleText, visibleText, skipLayout, List.dropWhile_append, if_neg begun, List.filter_append]
  rfl

/-- Whether a line is plain depends on how it begins and ends only. -/
theorem isPlain_visibleText {front back : List Char} {c : Char}
    (first : (visibleText front).head? = some c) (other : c ∉ ['\x7d', ')'])
    (nonempty : back.filter (· ≠ '\r') ≠ []) (last : opensBlock (back.filter (· ≠ '\r')) = false)
    (middle : List Char) : IsPlain (visibleText (front ++ (middle ++ back))) := by
  have seen : visibleText front ≠ [] := by
    intro none
    rw [none] at first
    cases first
  rw [visibleText_append seen, List.filter_append, ← List.append_assoc]
  refine isPlain_append ?_ other nonempty last
  rw [List.append_assoc, List.head?_append_of_ne_nil _ seen, first]

def previewElement (component : String) : List Char :=
  "      <".toList ++ (component.toList ++ " />".toList)

def previewCall (rootTag : String) : List Char :=
  "  rootTag: document.getElementById('".toList ++ (rootTag.toList ++ "'),".toList)

theorem isPlain_previewElement (component : String) : IsPlain (visibleText (previewElement component)) := by
  have first : (visibleText "      <".toList).head? = some '<' := by decide
  exact isPlain_visibleText first (by decide) (by decide) (by decide) component.toList

theorem isPlain_previewCall (rootTag : String) : IsPlain (visibleText (previewCall rootTag)) := by
  have first : (visibleText "  rootTag: document.getElementById('".toList).head? = some 'r' := by
    decide +kernel
  exact isPlain_visibleText first (by decide) (by decide) (by decide) rootTag.toList

theorem lineFeed_notMem_previewElement {component : String} (name : '\n' ∉ component.toList) :
    '\n' ∉ previewElement component := by
  have fixed : '\n' ∉ "      <".toList ∧ '\n' ∉ " />".toList := by decide
  unfold previewElement
  simp only [List.mem_append, not_or]
  exact ⟨fixed.1, name, fixed.2⟩

theorem lineFeed_notMem_previewCall {rootTag : String} (tag : '\n' ∉ rootTag.toList) :
    '\n' ∉ previewCall rootTag := by
  have fixed : '\n' ∉ "  rootTag: document.getElementById('".toList ∧ '\n' ∉ "'),".toList := by decide
  unfold previewCall
  simp only [List.mem_append, not_or]
  exact ⟨fixed.1, tag, fixed.2⟩

def previewText (code component rootTag : String) : String :=
  previewOpening ++ code ++ (previewMounting ++ "<") ++ component
    ++ (" />" ++ previewRunning ++ "document.getElementById('") ++ rootTag ++ ("')," ++ previewClosing)

theorem toList_previewText (code component rootTag : String) :
    (previewText code component rootTag).toList
      = lineChars (previewLines.take 3) ++ (code.toList ++ '\n' ::
          (lineChars ((previewLines.drop 4).take 5) ++ (previewElement component ++ '\n' ::
            (lineChars ((previewLines.drop 10).take 6) ++ (previewCall rootTag ++ '\n' ::
              (lineChars (previewLines.drop 17) ++ [])))))) := by
  calc (previewText code component rootTag).toList
      = previewOpening.toList ++ code.toList ++ (previewMounting ++ "<").toList
          ++ component.toList ++ (" />" ++ previewRunning ++ "document.getElementById('").toList
          ++ rootTag.toList ++ ("')," ++ previewClosing).toList := by
        simp only [previewText, String.toList_append]
    _ = _ := by
        unfold previewElement previewCall
        rw [toList_opening, toList_mounting, toList_running, toList_closing, String.toList_empty]
        simp only [List.append_assoc, List.append_nil]
        rw [List.nil_append, List.nil_append, List.singleton_append, List.singleton_append,
          List.singleton_append]

/-- The lines of a preview are those of the template, of the code and of what is in the tags. -/
theorem lineTexts_previewText (code : String) {component rootTag : String}
    (name : '\n' ∉ component.toList) (tag : '\n' ∉ rootTag.toList) :
    lineTexts (previewText code component rootTag).toList
      = previewTexts (lineTexts code.toList) (visibleText (previewElement component))
          (visibleText (previewCall rootTag)) ++ [[]] := by
  have nothing : lineTexts [] = [[]] := by decide
  rw [toList_previewText, lineTexts_lineChars declares_opening.oneLine, lineTexts_append,
    lineTexts_lineChars declares_mounting.oneLine, lineTexts_cons (lineFeed_notMem_previewElement name),
    lineTexts_lineChars declares_running.oneLine, lineTexts_cons (lineFeed_notMem_previewCall tag),
    lineTexts_lineChars declares_closing.oneLine, nothing]
  simp only [previewTexts, List.append_assoc, List.cons_append, List.nil_append]

/-! ## Names of a design -/

/-- The names of the primitives, in the order in which a file imports them. -/
def importableNames : List String := ["useState", "StyleSheet", "Text", "View"]

theorem exists_symbol_of_mem_importableNames :
    ∀ name ∈ importableNames, ∃ p : Primitive, p.symbol = name := by
  have found : ∀ name ∈ importableNames, ∃ p ∈ Primitive.all, p.symbol = name := by decide
  intro name inside
  obtain ⟨p, -, same⟩ := found name inside
  exact ⟨p, same⟩

/-- A design imports some of the primitives, and none twice. -/
theorem importedNames_sublist (options : ComponentOptions) (design : Design) :
    (design.importedNames options .react ++ design.importedNames options .reactNative).Sublist
      importableNames := by
  simp only [Design.importedNames]
  split_ifs <;> decide

/-- A generated file declares what it imports, the component and the style table, and leaves no block
open. -/
theorem outerNames_of_generate {settings : Settings} {design : Design} {code : String}
    (h : (generate settings design).result = .ok code) :
    outerNames 0 (lineTexts code.toList)
      = (design.importedNames settings.component .react
          ++ design.importedNames settings.component .reactNative
          ++ [pascalName design.root.name, stylesName], 0) := by
  have texts := lineTexts_layOutLines settings.writer []
    (isFlush_sourceLines settings.component settings.writer.quoteStyle design)
  have nothing : outerNames 0 (lineTexts []) = ([], 0) := by decide
  rw [List.append_nil] at texts
  rw [code_of_generate h, String.toList_ofList, texts,
    outerNames_append _ _ (outerNames_sourceLines settings.component settings.writer.quoteStyle design),
    nothing, List.append_nil]
  rfl

theorem result_generatePreview {settings : Settings} {design : Design} {code : String}
    (h : (generate settings design).result = .ok code) (rootTag : String) :
    (generatePreview settings design rootTag).result
      = .ok ⟨"preview.tsx", previewText code (pascalName design.root.name) rootTag⟩ := by
  have path : "preview." ++ fileExtension = "preview.tsx" := by decide
  rw [generatePreview_eq, path]
  simp only [generateFile, Outcome.andThen, h, Except.bind, previewText]

/-- A preview declares what its file declares, and the names of the template. -/
theorem moduleNames_preview {code component rootTag : String} {names : List String}
    (read : outerNames 0 (lineTexts code.toList) = (names, 0)) (name : '\n' ∉ component.toList)
    (tag : '\n' ∉ rootTag.toList) :
    (moduleNames (previewText code component rootTag).toList).Perm (names ++ previewNames) := by
  have blank : outerNames 0 [[]] = ([], 0) := by decide
  rw [moduleNames, lineTexts_previewText code name tag,
    outerNames_append _ _ (outerNames_previewTexts read (isPlain_previewElement _)
      (isPlain_previewCall _)), blank, List.append_nil, previewNames_eq]
  refine (List.perm_append_comm.append_right _).trans (.of_eq ?_)
  rw [List.append_assoc]
  rfl

/-- A name that is neither reserved nor begins with two underscores is no name that is imported, the
style table or a name of the template. -/
theorem notMem_of_free {name : String} (free : name ∉ reservedWords ∧ ¬ "__".toList <+: name.toList)
    {imported : List String} (reserved : ∀ word ∈ imported, word ∈ reservedWords) :
    name ∉ imported ++ stylesName :: previewNames := by
  rw [List.mem_append, List.mem_cons]
  rintro (known | rfl | template)
  · exact free.1 (reserved name known)
  · exact free.1 stylesName_mem_reservedWords
  · exact free.2 (underscores_of_mem_previewNames name template)

/-- What a file or a preview declares is declared once if the component is none of the other names. -/
theorem nodup_of_notMem {imported : List String} {component : String}
    (written : imported.Sublist importableNames)
    (apart : component ∉ imported ++ stylesName :: previewNames) :
    (imported ++ [component, stylesName] ++ previewNames).Nodup := by
  have fixed : (importableNames ++ stylesName :: previewNames).Nodup := by
    rw [previewNames_eq]
    decide
  rw [List.append_assoc, List.cons_append, List.singleton_append, List.nodup_middle, List.nodup_cons]
  exact ⟨apart, fixed.sublist (written.append_right _)⟩

/-- No name that is made from a label is taken for another. The component and what the hooks bind are
neither reserved words nor begin with two underscores; what can be imported and the style table are
reserved words, and the names of the template begin with two underscores. So what a file and a preview
declare outside of blocks are different names, and none of these but the component comes from a label.
A preview declares what its file declares and the names of the template, as long as the root tag stays
on its line. -/
theorem names_of_generate (settings : Settings) (design : Design) :
    let component := pascalName design.root.name
    let own := component :: bindings (design.rootState.getD [])
    (∀ name ∈ own, name ∉ reservedWords ∧ ¬ "__".toList <+: name.toList) ∧
      (∀ p : Primitive, p.symbol ∈ reservedWords) ∧ stylesName ∈ reservedWords ∧
      (∀ name ∈ previewNames, "__".toList <+: name.toList) ∧
      ∀ code : String, (generate settings design).result = .ok code →
        ∃ imported : List String, (∀ name ∈ imported, ∃ p : Primitive, p.symbol = name) ∧
          moduleNames code.toList = imported ++ [component, stylesName] ∧
          (∀ name ∈ own, name ∉ imported ++ stylesName :: previewNames) ∧
          (moduleNames code.toList ++ previewNames).Nodup ∧
          ∀ rootTag : String, ∃ preview : String,
            (generatePreview settings design rootTag).result = .ok ⟨"preview.tsx", preview⟩ ∧
              ('\n' ∉ rootTag.toList →
                (moduleNames preview.toList).Perm (moduleNames code.toList ++ previewNames)) := by
  intro component own
  have free := free_of_mem_names design.root.name (design.rootState.getD [])
  refine ⟨free, Primitive.symbol_mem_reservedWords, stylesName_mem_reservedWords,
    underscores_of_mem_previewNames, ?_⟩
  intro code h
  have read := outerNames_of_generate h
  have written := importedNames_sublist settings.component design
  generalize design.importedNames settings.component .react
    ++ design.importedNames settings.component .reactNative = imported at read written
  have symbols : ∀ name ∈ imported, ∃ p : Primitive, p.symbol = name := fun name inside =>
    exists_symbol_of_mem_importableNames name (written.subset inside)
  have reserved : ∀ name ∈ imported, name ∈ reservedWords := by
    intro name inside
    obtain ⟨p, rfl⟩ := symbols name inside
    exact p.symbol_mem_reservedWords
  have apart : ∀ name ∈ own, name ∉ imported ++ stylesName :: previewNames :=
    fun name inside => notMem_of_free (free name inside) reserved
  have names : moduleNames code.toList = imported ++ [component, stylesName] := by
    rw [moduleNames, read]
  refine ⟨imported, symbols, names, apart, ?_, ?_⟩
  · rw [names]
    exact nodup_of_notMem written (apart component List.mem_cons_self)
  · intro rootTag
    refine ⟨_, result_generatePreview h rootTag, fun tag => ?_⟩
    rw [names]
    exact moduleNames_preview read (isOneLine_pascalName _).1 tag

/-- A view whose labels have the names of imports for their identifiers. -/
def reservedDesign : Design :=
  (Design.new (((Node.new .frame "view").onPage "Home").withChild (Node.new .text "Hi"))).withState
    "Home" "view" ⟨"use state", .text ""⟩

/-- Of a label that has the name of an import for its identifier the identifier is another. -/
theorem names_of_reserved :
    ∃ code preview : String, (generate {} reservedDesign).result = .ok code ∧
      (generatePreview {} reservedDesign defaultRootTag).result = .ok ⟨"preview.tsx", preview⟩ ∧
      "View_" ∈ moduleNames code.toList ∧ "useState_" ∉ moduleNames code.toList ∧
      (moduleNames preview.toList).Nodup := by
  have valid : (reservedDesign.renderedNodes {}).findSome? (Node.invalidStyle? {}) = none := by
    decide
  have result := result_of_valid {} reservedDesign valid
  have component : pascalName reservedDesign.root.name = "View_" := by decide +kernel
  have bound : bindings (reservedDesign.rootState.getD []) = ["useState_", "setUseState"] := by
    decide +kernel
  obtain ⟨-, -, -, -, files⟩ := names_of_generate {} reservedDesign
  obtain ⟨imported, -, names, apart, nodup, previews⟩ := files _ result
  obtain ⟨preview, rendered, declared⟩ := previews defaultRootTag
  have perm := declared (by decide)
  rw [component, bound] at apart
  rw [component] at names
  refine ⟨_, preview, result, rendered, ?_, ?_, perm.nodup_iff.mpr nodup⟩
  · rw [names]
    simp
  · have free := apart "useState_" (by decide)
    rw [names]
    simp only [List.mem_append, List.mem_cons, not_or] at free ⊢
    exact ⟨free.1, by decide, free.2.1, List.not_mem_nil⟩

end Viewsmith
