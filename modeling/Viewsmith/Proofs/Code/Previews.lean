import Viewsmith.Proofs.Code.ImportStatements
import Viewsmith.Proofs.Reading.GeneratedMarkup
import Viewsmith.Proofs.Template.Reading

/-!
# Previews

The template of a preview entry has three tags: the code, the name of the component and the element
that it is mounted on. Everything else of it is fixed text, so a preview is four fixed texts with the
code, the component name and the root tag between them, whatever these hold (`renderPreview_eq`). The
name is the one that the embedded code exports (`preview_of_generate`).
-/

namespace Viewsmith

open Template

/-! ## Fixed texts -/

/-- The text of a preview before the code. -/
def previewOpening : String := String.ofList (lineChars (previewLines.take 3))

/-- The text of a preview from the code to the element of the component. -/
def previewMounting : String :=
  String.ofList (['\n'] ++ lineChars ((previewLines.drop 4).take 5)) ++ "      "

/-- The text of a preview from the element of the component to the call that finds the root tag. -/
def previewRunning : String :=
  String.ofList (['\n'] ++ lineChars ((previewLines.drop 10).take 6)) ++ "  rootTag: "

/-- The text of a preview after the line of the root tag. -/
def previewClosing : String := String.ofList (['\n'] ++ lineChars (previewLines.drop 17))

theorem ofList_split {line text more : List Char} (h : line = text ++ more) :
    String.ofList line = String.ofList text ++ String.ofList more := by
  rw [h, String.ofList_append]

theorem toList_opening :
    previewOpening.toList = [] ++ lineChars (previewLines.take 3) ++ "".toList := by
  simp [previewOpening]

theorem toList_mounting : (previewMounting ++ "<").toList
    = "".toList ++ ['\n'] ++ lineChars ((previewLines.drop 4).take 5) ++ "      <".toList := by
  have element : "      <" = "      " ++ "<" := ofList_split rfl
  simp only [previewMounting, element, String.toList_append, String.toList_ofList, String.toList_empty,
    List.nil_append, List.append_assoc]

theorem toList_running : (" />" ++ previewRunning ++ "document.getElementById('").toList
    = " />".toList ++ ['\n'] ++ lineChars ((previewLines.drop 10).take 6)
      ++ "  rootTag: document.getElementById('".toList := by
  have call : "  rootTag: document.getElementById('" = "  rootTag: " ++ "document.getElementById('" :=
    ofList_split rfl
  simp only [previewRunning, call, String.toList_append, String.toList_ofList, List.append_assoc]

theorem toList_closing : ("')," ++ previewClosing).toList
    = "'),".toList ++ ['\n'] ++ lineChars (previewLines.drop 17) := by
  simp only [previewClosing, String.toList_append, String.toList_ofList, List.append_assoc]

/-- No tag begins in the lines that hold none. -/
theorem isTagFree_previewLines : ∀ line ∈ previewLines.take 3 ++ (previewLines.drop 4).take 5
      ++ (previewLines.drop 10).take 6 ++ previewLines.drop 17,
    isTagFree (line.toList ++ ['\n']) = true := by
  have boundary : isTagFree (("    <__SprigErrorBoundary fallback=\x7b<pre style=\x7b__sprigFallbackStyle\x7d>"
      ++ "Component error. Check console.</pre>\x7d>").toList ++ ['\n']) = true := by
    rw [String.toList_append, List.append_assoc]
    exact isTagFree_append (isTagFree_toList (by decide)) (isTagFree_line (by decide))
  simp only [previewLines, List.take, List.drop, List.forall_mem_append, List.forall_mem_cons,
    List.not_mem_nil, IsEmpty.forall_iff, implies_true, and_true, boundary]
  and_intros
  all_goals exact isTagFree_line (by decide)

/-! ## The template -/

/-- The lines of the template, with the three that hold a tag set apart. -/
theorem previewLines_eq : previewLines =
    previewLines.take 3 ++ "\x7b\x7b\x7bcode\x7d\x7d\x7d" ::
      ((previewLines.drop 4).take 5 ++ "      <\x7b\x7bpascal_case component\x7d\x7d />" ::
        ((previewLines.drop 10).take 6
          ++ "  rootTag: document.getElementById('\x7b\x7broot_tag\x7d\x7d')," ::
            previewLines.drop 17)) := rfl

def previewTemplate (opening mounting running closing : List Char) : Template :=
  literal opening ++ [.value "code"]
    ++ (literal mounting ++ [.call pascalHelper [.path "component"]]
      ++ (literal running ++ [.value "root_tag"] ++ literal closing))

theorem readTag?_code (rest : List Char) :
    readTag? ("\x7bcode\x7d\x7d\x7d".toList ++ rest) = some ([.value "code"], rest) := rfl

theorem readTag?_component (rest : List Char) :
    readTag? ("pascal_case component\x7d\x7d".toList ++ rest)
      = some ([.call pascalHelper [.path "component"]], rest) := rfl

theorem readTag?_rootTag (rest : List Char) :
    readTag? ("root_tag\x7d\x7d".toList ++ rest) = some ([.value "root_tag"], rest) := rfl

/-- The template is read as its fixed texts with the three tags between them. -/
theorem writes_previewChars : Writes previewChars (previewTemplate previewOpening.toList
    (previewMounting ++ "<").toList (" />" ++ previewRunning ++ "document.getElementById('").toList
    ("')," ++ previewClosing).toList) := by
  have codeLine : "\x7b\x7b\x7bcode\x7d\x7d\x7d".toList
      = "".toList ++ '{' :: '{' :: ("\x7bcode\x7d\x7d\x7d".toList ++ "".toList) := toList_tagLine rfl
  have componentLine : "      <\x7b\x7bpascal_case component\x7d\x7d />".toList
      = "      <".toList ++ '{' :: '{' :: ("pascal_case component\x7d\x7d".toList ++ " />".toList) :=
    toList_tagLine rfl
  have rootTagLine : "  rootTag: document.getElementById('\x7b\x7broot_tag\x7d\x7d'),".toList
      = "  rootTag: document.getElementById('".toList
        ++ '{' :: '{' :: ("root_tag\x7d\x7d".toList ++ "'),".toList) := toList_tagLine rfl
  have codeStart : isTagFree "".toList = true := isTagFree_toList rfl
  have codeEnd : isTagFree ("".toList ++ ['\n']) = true := isTagFree_line (by decide)
  have componentStart : isTagFree "      <".toList = true := isTagFree_toList (by decide)
  have componentEnd : isTagFree (" />".toList ++ ['\n']) = true := isTagFree_line (by decide)
  have rootTagStart : isTagFree "  rootTag: document.getElementById('".toList = true :=
    isTagFree_toList (by decide)
  have rootTagEnd : isTagFree ("'),".toList ++ ['\n']) = true := isTagFree_line (by decide)
  obtain ⟨⟨⟨opening, mounting⟩, running⟩, closing⟩ : ((_ ∧ _) ∧ _) ∧ _ := by
    simpa only [List.forall_mem_append] using isTagFree_previewLines
  -- From the last lines to the first: what follows a tag has been read before the tag is.
  have last := Writes.lastLines rootTagEnd closing
  have third := Writes.tagLine componentEnd running rootTagLine rootTagStart
    readTag?_rootTag last
  have second := Writes.tagLine codeEnd mounting componentLine componentStart
    readTag?_component third
  have first := Writes.tagLine (rfl : isTagFree [] = true) opening codeLine codeStart
    readTag?_code second
  rw [List.nil_append (lineChars (_ ++ _)), ← previewLines_eq] at first
  rw [toList_opening, toList_mounting, toList_running, toList_closing]
  exact first

/-! ## Rendering -/

theorem render_previewTemplate (opening mounting running closing : List Char)
    (code component rootTag : String) :
    (previewTemplate opening mounting running closing).render (previewContext code component rootTag)
      = .ok (String.ofList opening ++ code ++ (String.ofList mounting ++ pascalName component
          ++ (String.ofList running ++ rootTag ++ String.ofList closing))) := by
  have codeFound : (previewContext code component rootTag).at? "code" = .ok (some (.string code)) := rfl
  have componentFound : (previewContext code component rootTag).at? "component"
      = .ok (some (.string component)) := rfl
  have rootTagFound : (previewContext code component rootTag).at? "root_tag"
      = .ok (some (.string rootTag)) := rfl
  have toClosing := render_append
    (render_append (render_literal running) (render_value rootTagFound)) (render_literal closing)
  have toRunning := render_append
    (render_append (render_literal mounting) (render_pascalCall componentFound)) toClosing
  exact render_append (render_append (render_literal opening) (render_value codeFound)) toRunning

theorem renderPreview_of_read {t : Template} {code component rootTag text : String}
    (read : Template.ofChars? previewChars = some t)
    (rendered : t.render (previewContext code component rootTag) = .ok text) :
    renderPreview code component rootTag = .ok text := by
  rw [renderPreview, read, renderTemplate, rendered]

/-- A preview is its fixed texts with the code, the name of the component and the root tag between
them. None of the three is read as a part of the template, and nothing in them is escaped. -/
theorem renderPreview_eq (code component rootTag : String) :
    renderPreview code component rootTag
      = .ok (previewOpening ++ code
          ++ (previewMounting ++ "<") ++ pascalName component
          ++ (" />" ++ previewRunning ++ "document.getElementById('") ++ rootTag
          ++ ("')," ++ previewClosing)) := by
  refine renderPreview_of_read (ofChars?_of_writes writes_previewChars)
    ((render_previewTemplate ..).trans (congrArg Except.ok ?_))
  simp only [String.ofList_toList, String.append_assoc]

/-! ## Exported names -/

/-- The name of the function that a line exports: what stands between the words of the export and
the parameters. -/
def readExport? (line : List Char) : Option (List Char) :=
  ((readToken "export function " line).or (readToken "export default function " line)).map
    (·.takeWhile (· ≠ '('))

def exportedName? (code : List Char) : Option (List Char) :=
  (code.splitOn '\n').findSome? fun line => readExport? (skipLayout line)

theorem readExport?_of_head {text : List Char} (other : text.head? ≠ some 'e') :
    readExport? text = none := by
  have named : "export function ".toList.head? = some 'e' := by decide
  have default : "export default function ".toList.head? = some 'e' := by decide
  rw [readExport?, readToken_of_head named other, readToken_of_head default other]
  rfl

theorem readExport?_keywords (style : ExportStyle) {name : List Char} (parameters : '(' ∉ name)
    (rest : List Char) : readExport? (style.keywords.toList ++ (name ++ '(' :: rest)) = some name := by
  have taken : (name ++ '(' :: rest).takeWhile (· ≠ '(') = name := by
    have inside : ∀ c ∈ name, decide (c ≠ '(') = true := by
      intro c hc
      rw [decide_eq_true_eq]
      rintro rfl
      exact parameters hc
    rw [List.takeWhile_append_of_pos inside, List.takeWhile_cons_of_neg (by decide), List.append_nil]
  cases style with
  | named =>
      rw [readExport?, ExportStyle.keywords, readToken_append, Option.some_or, Option.map_some, taken]
  | default =>
      have other : ¬ "export function ".toList <+: "export default function ".toList ∧
          ¬ "export default function ".toList <+: "export function ".toList := by decide
      rw [readExport?, ExportStyle.keywords, readToken_clash other.1 other.2, Option.none_or,
        readToken_append, Option.map_some, taken]

theorem parenthesis_notMem_pascalName (label : String) : '(' ∉ (pascalName label).toList := by
  intro inside
  rcases isIdentifierChar_of_mem_pascalName inside with ident | space
  · exact absurd ident (by decide)
  · exact absurd space (by decide)

theorem readExport?_headerLine (o : WriterOptions) (options : ComponentOptions) (design : Design) :
    readExport? (skipLayout ((design.headerLine options).unended o))
      = some (pascalName design.root.name).toList := by
  have nonempty : (design.headerLine options).text ≠ [] := by
    intro empty
    have first := design.head?_headerLine options
    rw [empty] at first
    cases first
  have parameters : "() \x7b".toList = '(' :: [')', ' ', '\x7b'] := by decide
  rw [skipLayout_unended o (isFlush_headerLine options design), if_neg nonempty, Design.headerLine,
    parameters]
  simp only [List.append_assoc, List.cons_append]
  exact readExport?_keywords _ (parenthesis_notMem_pascalName _) _

/-- The name that a generated file exports is the component name of its root. -/
theorem exportedName?_layOutLines (o : WriterOptions) (options : ComponentOptions) (q : QuoteStyle)
    (design : Design) :
    exportedName? (layOutLines o (design.sourceLines options q))
      = some (pascalName design.root.name).toList := by
  have flush := isFlush_sourceLines options q design
  obtain ⟨rest, -, lines⟩ := headed_sourceLines options q design
  rw [exportedName?, splitOn_layOutLines o flush]
  rw [lines] at flush ⊢
  rw [List.forall_mem_append] at flush
  -- The statements export nothing, so the header is the first line that does.
  have before : (List.map (Line.unended o) (if importLines q (design.importedNames options) = [] then []
      else importLines q (design.importedNames options) ++ [⟨0, []⟩])).findSome?
        (fun line => readExport? (skipLayout line)) = none := by
    rw [List.findSome?_eq_none_iff]
    intro line hline
    obtain ⟨l, hl, rfl⟩ := List.mem_map.mp hline
    have other := head?_of_mem_statements (c := 'e') (by decide) l hl
    exact readExport?_of_head (head?_skipLayout_unended o (flush.1 l hl) other)
  rw [List.map_append, List.append_assoc, List.findSome?_append, before, Option.none_or, List.map_cons,
    List.cons_append, List.findSome?_cons, readExport?_headerLine]

/-! ## Generated previews -/

/-- A file that is generated is always wrapped in a preview. -/
theorem generatePreview_eq (settings : Settings) (design : Design) (rootTag : String) :
    generatePreview settings design rootTag = (generateFile settings design).andThen fun file =>
      .ok ⟨"preview." ++ fileExtension, previewOpening ++ file.content
        ++ (previewMounting ++ "<") ++ pascalName design.root.name
        ++ (" />" ++ previewRunning ++ "document.getElementById('") ++ rootTag
        ++ ("')," ++ previewClosing)⟩ := by
  unfold generatePreview
  refine congrArg (Outcome.andThen _) (funext fun file => ?_)
  rw [renderPreview_eq]

theorem content_generatePreview (settings : Settings) (design : Design) (rootTag : String) :
    (generatePreview settings design rootTag).result.map GeneratedFile.content
      = (generate settings design).result.map fun code => previewOpening ++ code
        ++ (previewMounting ++ "<") ++ pascalName design.root.name
        ++ (" />" ++ previewRunning ++ "document.getElementById('") ++ rootTag
        ++ ("')," ++ previewClosing) := by
  rw [generatePreview_eq]
  simp only [generateFile, Outcome.andThen]
  cases (generate settings design).result <;> rfl

/-- A preview holds the generated file as it is and mounts what the file exports. There are four fixed
texts, the second of which ends where an element begins and the third of which begins where it ends:
a preview is generated exactly if the file is, fails as the file fails, and otherwise consists of these
texts with the file, the name of the component and the root tag between them. The file exports a
function of that name. -/
theorem preview_of_generate :
    ∃ a b c d : String, ∀ (settings : Settings) (design : Design) (rootTag : String),
      (generatePreview settings design rootTag).result
          = (generate settings design).result.map (fun code =>
              ⟨"preview.tsx", a ++ code ++ (b ++ "<") ++ pascalName design.root.name
                ++ (" />" ++ c) ++ rootTag ++ d⟩) ∧
        ∀ code : String, (generate settings design).result = .ok code →
          exportedName? code.toList = some (pascalName design.root.name).toList := by
  refine ⟨previewOpening, previewMounting, previewRunning ++ "document.getElementById('",
    "')," ++ previewClosing, fun settings design rootTag => ⟨?_, ?_⟩⟩
  · have path : "preview." ++ fileExtension = "preview.tsx" := by decide
    rw [generatePreview_eq, path]
    simp only [generateFile, Outcome.andThen]
    cases (generate settings design).result with
    | error e => rfl
    | ok code => simp only [Except.bind, Except.map, String.append_assoc]
  · intro code h
    rw [code_of_generate h, String.toList_ofList]
    exact exportedName?_layOutLines settings.writer settings.component settings.writer.quoteStyle design

/-- The preview of the card holds its file. -/
theorem preview_of_card :
    (generate {} cardDesign).result = .ok (String.ofList (layOutLines {} cardLines)) ∧
      (∃ before after : String, (generatePreview {} cardDesign defaultRootTag).result
        = .ok ⟨"preview.tsx", before ++ String.ofList (layOutLines {} cardLines) ++ after⟩) ∧
      exportedName? (String.ofList (layOutLines {} cardLines)).toList
        = some (pascalName cardDesign.root.name).toList := by
  obtain ⟨a, b, c, d, previews⟩ := preview_of_generate
  obtain ⟨preview, exported⟩ := previews {} cardDesign defaultRootTag
  refine ⟨generate_card, ⟨a, (b ++ "<") ++ pascalName cardDesign.root.name ++ (" />" ++ c)
    ++ defaultRootTag ++ d, ?_⟩, exported _ generate_card⟩
  rw [preview, generate_card]
  simp only [Except.map, String.append_assoc]

end Viewsmith
