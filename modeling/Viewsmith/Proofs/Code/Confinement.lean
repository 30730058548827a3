import Mathlib.Data.List.Basic
import Viewsmith.Proofs.Code.GeneratedLines
import Viewsmith.Proofs.Design.Positions

/-!
# Texts stay in their literals

The characters of a text and the initial value of a state entry are written as a string literal, and
no other part of a file depends on them: the lines of the file have a gap for that literal, and any
text put in its place fills the gap (`hasGap_content`, `hasGap_state`). So a text, whatever it
holds, changes nothing but its own literal (`literals_of_generate`).
-/

namespace Viewsmith

/-! ## Lines with a gap -/

/-- Lines with a gap for a string literal in one of them. -/
structure GappedLines : Type where
  above : List Line
  level : Nat
  left : List Char
  right : List Char
  below : List Line

namespace GappedLines

def fill (g : GappedLines) (q : QuoteStyle) (text : String) : List Line :=
  g.above ++ ⟨g.level, g.left ++ stringLiteral q text.toList ++ g.right⟩ :: g.below

def between (g : GappedLines) (above below : List Line) : GappedLines :=
  { g with above := above ++ g.above, below := g.below ++ below }

theorem fill_between (g : GappedLines) (above below : List Line) (q : QuoteStyle) (text : String) :
    (g.between above below).fill q text = above ++ g.fill q text ++ below := by
  simp [between, fill]

/-- Laid out, the lines stay what they are on both sides of the literal. -/
theorem exists_layOutLines_fill (o : WriterOptions) (g : GappedLines) :
    ∃ pre post : List Char, ∀ (q : QuoteStyle) (text : String),
      layOutLines o (g.fill q text) = pre ++ stringLiteral q text.toList ++ post := by
  refine ⟨layOutLines o g.above ++ o.indentation g.level ++ g.left,
    g.right ++ o.lineEnd.text.toList ++ layOutLines o g.below, fun q text => ?_⟩
  have nonempty : g.left ++ stringLiteral q text.toList ++ g.right ≠ [] := by
    rw [stringLiteral]
    simp
  rw [fill, layOutLines_append, layOutLines_cons, Line.layOut, if_neg nonempty]
  simp

end GappedLines

/-- Whether lines that depend on a text have it in a literal and do not depend on it otherwise. -/
def HasGap (q : QuoteStyle) (text : String) (lines : List Line) (other : String → List Line) : Prop :=
  ∃ g : GappedLines, lines = g.fill q text ∧ ∀ s, other s = g.fill q s

theorem HasGap.between {q : QuoteStyle} {text : String} {lines : List Line}
    {other : String → List Line} (h : HasGap q text lines other) (above below : List Line) :
    HasGap q text (above ++ lines ++ below) fun s => above ++ other s ++ below := by
  obtain ⟨g, filled, others⟩ := h
  refine ⟨g.between above below, ?_, fun s => ?_⟩
  · rw [g.fill_between, filled]
  · beta_reduce
    rw [g.fill_between, others]

/-! ## Elements -/

theorem Element.rowLines_append (q : QuoteStyle) (level : Nat) (first second : List Element) :
    Element.rowLines q level (first ++ second)
      = Element.rowLines q level first ++ Element.rowLines q level second := by
  induction first with
  | nil => rfl
  | cons e rest ih => rw [List.cons_append, rowLines, rowLines, ih, List.append_assoc]

/-- A view has the lines of each of its children between those of the others. -/
theorem Element.lines_view_split (q : QuoteStyle) (level : Nat) (key : Option String)
    (before : List Element) (e : Element) (after : List Element) :
    (Element.view key (before ++ e :: after)).lines q level
      = (⟨level, "<View".toList ++ styleAttribute key ++ ">".toList⟩ ::
            Element.rowLines q (level + 1) before)
        ++ e.lines q (level + 1)
        ++ (Element.rowLines q (level + 1) after ++ [⟨level, "</View>".toList⟩]) := by
  have children : (before ++ e :: after).isEmpty = false := by simp
  rw [Element.lines, children, if_neg Bool.false_ne_true, rowLines_append, rowLines]
  simp

/-- The lines of an element have a gap for the content of each text in it. -/
theorem hasGap_element {keyOf : Node → Option String}
    (same : ∀ s path n, keyOf (Node.withCharactersAt s path n) = keyOf n) (q : QuoteStyle)
    {path : List Nat} {n m : Node} (found : n.renderedAt? path = some m) (text : m.kind = .text)
    (level : Nat) :
    HasGap q m.content ((n.element keyOf).lines q level)
      fun s => ((n.withCharactersAt s path).element keyOf).lines q level := by
  induction path generalizing n level with
  | nil =>
      rw [Node.renderedAt?, Option.some.injEq] at found
      subst found
      refine ⟨⟨[], level, "<Text".toList ++ styleAttribute (keyOf n) ++ ">\x7b".toList,
        "\x7d</Text>".toList, []⟩, ?_, fun s => ?_⟩
      · rw [Node.element_eq, text]
        rfl
      · beta_reduce
        rw [Node.element_eq, same, Node.kind_withCharactersAt, text]
        rfl
  | cons i path ih =>
      obtain ⟨container, child, below, found⟩ := Node.renderedAt?_cons_eq_some.mp found
      obtain ⟨before, after, split, modified⟩ := exists_modify_split below
      have inside := (ih found (level + 1)).between
        (⟨level, "<View".toList ++ styleAttribute (keyOf n) ++ ">".toList⟩ ::
          Element.rowLines q (level + 1) (Node.elements keyOf before))
        (Element.rowLines q (level + 1) (Node.elements keyOf after) ++ [⟨level, "</View>".toList⟩])
      have view (child : Node) : Node.elements keyOf (before ++ child :: after)
          = Node.elements keyOf before ++ child.element keyOf :: Node.elements keyOf after := by
        simp [Node.elements_eq_map]
      obtain ⟨g, filled, others⟩ := inside
      refine ⟨g, ?_, fun s => ?_⟩
      · rw [← filled, Node.element_eq, container, if_pos rfl, split, view, Element.lines_view_split]
      · beta_reduce at others ⊢
        rw [← others, Node.element_eq, same, Node.kind_withCharactersAt, container, if_pos rfl,
          Node.withCharactersAt]
        simp only [modified, view, Element.lines_view_split]

/-! ## Source files -/

/-- A root below which a text is rendered is shown, and so is a root that is a text. -/
theorem Node.not_isEmptyComponent_of_renderedAt? (options : ComponentOptions) {root n : Node}
    {path : List Nat} (found : root.renderedAt? path = some n) (text : n.kind = .text) :
    ¬ root.isEmptyComponent options = true := by
  rw [isEmptyComponent_iff]
  rintro ⟨container, childless, -⟩
  cases path with
  | nil =>
      rw [renderedAt?, Option.some.injEq] at found
      rw [found, text] at container
      cases container
  | cons i path =>
      obtain ⟨-, child, below, -⟩ := renderedAt?_cons_eq_some.mp found
      rw [childless] at below
      cases below

section

variable (options : ComponentOptions) (q : QuoteStyle) (characters : String) (path : List Nat)
  (design : Design)

/-- Characters do not decide whether a component is shown, and what does not depend on them is the
same for all nodes that it renders. -/
theorem Design.map_renderedNodes_withCharactersAt {α : Type} {f : Node → α}
    (same : ∀ path n, f (Node.withCharactersAt characters path n) = f n) :
    ((design.withCharactersAt characters path).renderedNodes options).map f
      = (design.renderedNodes options).map f := by
  have empty := design.root.isEmptyComponent_withCharactersAt characters path options
  have nodes := Node.map_rendered_withCharactersAt same path design.root
  rw [renderedNodes, renderedNodes]
  show (if (design.root.withCharactersAt characters path).isEmptyComponent options then []
    else (design.root.withCharactersAt characters path).rendered).map f = _
  rw [empty]
  split
  · rfl
  · exact nodes

theorem Design.styling_withCharactersAt :
    (design.withCharactersAt characters path).styling options = design.styling options :=
  styling_congr <| design.map_renderedNodes_withCharactersAt options characters path
    fun path n => n.styleSet_withCharactersAt characters path options

theorem Design.importedNames_withCharactersAt :
    (design.withCharactersAt characters path).importedNames options = design.importedNames options := by
  apply importedNames_congr
  · rw [rootState_withCharactersAt]
  · apply map_renderedNodes_withCharactersAt
    intro path n
    rw [n.effectiveDeclarations_withCharactersAt]
  · apply map_renderedNodes_withCharactersAt
    intro path n
    rw [n.kind_withCharactersAt]

theorem Design.invalidStyle?_withCharactersAt :
    ((design.withCharactersAt characters path).renderedNodes options).findSome?
        (Node.invalidStyle? options)
      = (design.renderedNodes options).findSome? (Node.invalidStyle? options) := by
  have faults := design.map_renderedNodes_withCharactersAt options characters path
    fun path n => n.invalidStyle?_withCharactersAt characters path options
  have first := congrArg (List.findSome? id) faults
  rwa [List.findSome?_map, List.findSome?_map, Function.id_comp] at first

end

/-- The lines of a file have a gap for the content of each rendered text. -/
theorem hasGap_content (options : ComponentOptions) (q : QuoteStyle) {design : Design}
    {path : List Nat} {n : Node} (found : design.root.renderedAt? path = some n)
    (text : n.kind = .text) :
    HasGap q n.content (design.sourceLines options q)
      fun s => (design.withCharactersAt s path).sourceLines options q := by
  have shown := Node.not_isEmptyComponent_of_renderedAt? options found text
  have shown' (s : String) : ¬ (design.withCharactersAt s path).root.isEmptyComponent options = true := by
    rw [Design.withCharactersAt, Node.isEmptyComponent_withCharactersAt]
    exact shown
  have same (s : String) (path : List Nat) (n : Node) :
      (design.styling options).keyOf (Node.withCharactersAt s path n)
        = (design.styling options).keyOf n := by
    show Node.keyAmong _ _ _ = Node.keyAmong _ _ _
    rw [Node.keyAmong, Node.styleSet_withCharactersAt, Node.keyAmong]
  have header (s : String) : (design.withCharactersAt s path).headerLine options
      = design.headerLine options := by
    rw [Design.headerLine, Design.withCharactersAt, Node.name_withCharactersAt, Design.headerLine]
  obtain ⟨g, filled, others⟩ := (hasGap_element same q found text 2).between
    ((if importLines q (design.importedNames options) = [] then []
        else importLines q (design.importedNames options) ++ [⟨0, []⟩])
      ++ design.headerLine options :: (design.rootState.getD []).map (hookLine q)
      ++ [⟨1, "return (".toList⟩])
    (⟨1, ");".toList⟩ :: ⟨0, "\x7d".toList⟩ :: ⟨0, []⟩ ::
      tableLines q (design.styling options).table)
  refine ⟨g, ?_, fun s => ?_⟩
  · rw [← filled, Design.sourceLines_of_shown shown]
  · beta_reduce at others ⊢
    rw [← others, Design.sourceLines_of_shown (shown' s), header, Design.styling_withCharactersAt,
      Design.importedNames_withCharactersAt, Design.rootState_withCharactersAt]
    rfl

section

variable {options : ComponentOptions} {q : QuoteStyle} {design other : Design}

theorem Design.renderedNodes_of_root (same : other.root = design.root) :
    other.renderedNodes options = design.renderedNodes options := by
  rw [renderedNodes, same, renderedNodes]

theorem Design.styling_of_root (same : other.root = design.root) :
    other.styling options = design.styling options := by
  rw [styling, renderedNodes_of_root same, styling]

theorem Design.headerLine_of_root (same : other.root = design.root) :
    other.headerLine options = design.headerLine options := by
  rw [headerLine, same, headerLine]

theorem Design.returnLines_of_root (same : other.root = design.root)
    (keyOf : Node → Option String) :
    other.returnLines options q keyOf = design.returnLines options q keyOf := by
  rw [returnLines, same, returnLines]

/-- Of the state it matters to the imports only whether there is any. -/
theorem Design.importedNames_of_root (same : other.root = design.root)
    (state : (other.rootState.getD []).isEmpty = (design.rootState.getD []).isEmpty) :
    other.importedNames options = design.importedNames options :=
  importedNames_congr state (by rw [renderedNodes_of_root same]) (by rw [renderedNodes_of_root same])

theorem Design.root_withStateText (text : String) (number : Nat) (design : Design) :
    (design.withStateText text number).root = design.root := by
  rw [withStateText, root_withRootState]

/-- The line of a hook has a gap for an initial value that is a text. -/
theorem hasGap_hookLine (q : QuoteStyle) {e : StateEntry} {text : String}
    (value : e.value = .text text) :
    HasGap q text [hookLine q e] fun s => [hookLine q ⟨e.name, .text s⟩] := by
  refine ⟨⟨[], 1, "const [".toList ++ (getterName e.name).toList ++ ", ".toList
    ++ (setterName e.name).toList ++ "] = useState(".toList, ");".toList, []⟩, ?_, fun s => rfl⟩
  rw [hookLine, value]
  rfl

end

/-- The lines of a file have a gap for the initial value of each state entry that has a text. -/
theorem hasGap_state (options : ComponentOptions) (q : QuoteStyle) {design : Design}
    {entries : List StateEntry} (state : design.rootState = some entries) {number : Nat}
    {e : StateEntry} (entry : entries[number]? = some e) {text : String} (value : e.value = .text text) :
    HasGap q text (design.sourceLines options q)
      fun s => (design.withStateText s number).sourceLines options q := by
  obtain ⟨before, after, split, modified⟩ := exists_modify_split entry
  have root (s : String) := design.root_withStateText s number
  have replaced (s : String) : ((design.withStateText s number).rootState).getD []
      = before ++ ⟨e.name, .text s⟩ :: after := by
    rw [Design.rootState_withStateText state, Option.getD_some, modified]
  have present : design.rootState.getD [] = before ++ e :: after := by
    rw [state, Option.getD_some, split]
  have names (s : String) : (design.withStateText s number).importedNames options
      = design.importedNames options := by
    apply Design.importedNames_of_root (root s)
    rw [replaced, present]
    cases before <;> rfl
  obtain ⟨g, filled, others⟩ := (hasGap_hookLine q value).between
    ((if importLines q (design.importedNames options) = [] then []
        else importLines q (design.importedNames options) ++ [⟨0, []⟩])
      ++ design.headerLine options :: before.map (hookLine q))
    (after.map (hookLine q) ++ design.returnLines options q (design.styling options).keyOf
      ++ [⟨0, "\x7d".toList⟩] ++ [⟨0, []⟩] ++ tableLines q (design.styling options).table)
  refine ⟨g, ?_, fun s => ?_⟩
  · rw [← filled, Design.sourceLines, Design.functionLines, present]
    simp
  · beta_reduce at others ⊢
    rw [← others, Design.sourceLines, Design.functionLines, replaced, names,
      Design.styling_of_root (root s), Design.headerLine_of_root (root s),
      Design.returnLines_of_root (root s)]
    simp

/-! ## Generated files -/

def quotedText (q : QuoteStyle) (text : String) : String :=
  String.ofList (stringLiteral q text.toList)

/-- Files whose lines have a gap for a text differ in its literal alone. -/
theorem HasGap.exists_around {settings : Settings} {design : Design} {variant : String → Design}
    {text : String}
    (gap : HasGap settings.writer.quoteStyle text
      (design.sourceLines settings.component settings.writer.quoteStyle)
      fun s => (variant s).sourceLines settings.component settings.writer.quoteStyle)
    (valid : ∀ s, ((variant s).renderedNodes settings.component).findSome?
        (Node.invalidStyle? settings.component) = none)
    {code : String} (h : (generate settings design).result = .ok code) :
    ∃ pre post : String,
      code = pre ++ quotedText settings.writer.quoteStyle text ++ post ∧
        ∀ s : String, (generate settings (variant s)).result
          = .ok (pre ++ quotedText settings.writer.quoteStyle s ++ post) := by
  obtain ⟨g, filled, others⟩ := gap
  obtain ⟨pre, post, around⟩ := g.exists_layOutLines_fill settings.writer
  refine ⟨String.ofList pre, String.ofList post, ?_, fun s => ?_⟩
  · rw [code_of_generate h, filled, around, String.ofList_append, String.ofList_append, quotedText]
  · beta_reduce at others
    rw [result_generate, valid, others, around, String.ofList_append, String.ofList_append, quotedText]

/-- A text cannot influence anything outside its own literal. Where a file is generated, it has the
content of each rendered text, found by its path, in a literal between two parts; with any other
characters for that text a file is generated too, which has the literal of these characters between
the same two parts. The same holds of the texts that are initial values of the root's state. -/
theorem literals_of_generate {settings : Settings} {design : Design} {code : String}
    (h : (generate settings design).result = .ok code) :
    (∀ (path : List Nat) (n : Node), design.root.renderedAt? path = some n → n.kind = .text →
      ∃ pre post : String,
        code = pre ++ quotedText settings.writer.quoteStyle n.content ++ post ∧
          ∀ s : String, (generate settings (design.withCharactersAt s path)).result
            = .ok (pre ++ quotedText settings.writer.quoteStyle s ++ post)) ∧
    ∀ (entries : List StateEntry) (number : Nat) (e : StateEntry) (text : String),
      design.rootState = some entries → entries[number]? = some e → e.value = .text text →
      ∃ pre post : String,
        code = pre ++ quotedText settings.writer.quoteStyle text ++ post ∧
          ∀ s : String, (generate settings (design.withStateText s number)).result
            = .ok (pre ++ quotedText settings.writer.quoteStyle s ++ post) := by
  have valid := valid_of_generate h
  constructor
  · intro path n found text
    refine (hasGap_content settings.component _ found text).exists_around (fun s => ?_) h
    rw [Design.invalidStyle?_withCharactersAt, valid]
  · intro entries number e text state entry value
    refine (hasGap_state settings.component _ state entry value).exists_around (fun s => ?_) h
    rw [Design.renderedNodes_of_root (design.root_withStateText s number), valid]

/-- The title of the card stands in a literal of its own, and so does the value of its state entry. -/
theorem literals_of_card :
    (generate {} cardDesign).result = .ok (String.ofList (layOutLines {} cardLines)) ∧
      (∃ title, cardDesign.root.renderedAt? [0] = some title ∧ title.kind = .text ∧
        ∃ pre post : String,
          String.ofList (layOutLines {} cardLines) = pre ++ quotedText .single title.content ++ post ∧
            ∀ s : String, (generate {} (cardDesign.withCharactersAt s [0])).result
              = .ok (pre ++ quotedText .single s ++ post)) ∧
      cardDesign.rootState = some [⟨"open", .text "no"⟩] ∧
        ∃ pre post : String,
          String.ofList (layOutLines {} cardLines) = pre ++ quotedText .single "no" ++ post ∧
            ∀ s : String, (generate {} (cardDesign.withStateText s 0)).result
              = .ok (pre ++ quotedText .single s ++ post) := by
  have title : cardDesign.root.renderedAt? [0] = some
      (((Node.new .text "title").withCharacters "It's <Text>").withStyle "color" (.text "red")) := rfl
  have state : cardDesign.rootState = some [⟨"open", .text "no"⟩] := by decide
  obtain ⟨texts, states⟩ := literals_of_generate generate_card
  exact ⟨generate_card, ⟨_, title, rfl, texts [0] _ title rfl⟩, state, states _ 0 _ _ state rfl rfl⟩

end Viewsmith
