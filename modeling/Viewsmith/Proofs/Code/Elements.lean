import Mathlib.Data.List.Basic
import Viewsmith.Proofs.Code.Tokens
import Viewsmith.Proofs.Design.Rendered

/-!
# Elements

The markup of a component as a tree of its own: views around their children, and texts around their
content, each with the key of its style. The lines of an element are those of its children, one
level further in, between its tags.
-/

namespace Viewsmith

/-- An element of markup, with the key of its entry in the style table. -/
inductive Element : Type where
  | view (key : Option String) (children : List Element)
  | text (key : Option String) (content : String)

/-! ## Elements of nodes -/

variable (keyOf : Node → Option String)

mutual
/-- The element of a node. A text has its content in place of its children. -/
def Node.element : Node → Element
  | n@⟨kind, _, _, _, children, _, _⟩ =>
      if kind.isContainer then .view (keyOf n) (Node.elements children)
      else .text (keyOf n) n.content

def Node.elements : List Node → List Element
  | [] => []
  | n :: rest => n.element :: Node.elements rest
end

theorem Node.element_eq (n : Node) :
    n.element keyOf
      = if n.kind.isContainer then .view (keyOf n) (Node.elements keyOf n.children)
        else .text (keyOf n) n.content := by
  cases n
  rw [element]

theorem Node.elements_eq_map (nodes : List Node) :
    Node.elements keyOf nodes = nodes.map (Node.element keyOf) := by
  induction nodes with
  | nil => rw [elements, List.map_nil]
  | cons n rest ih => rw [elements, List.map_cons, ih]

/-! ## Lines of elements -/

def styleAttribute (key : Option String) : List Char :=
  key.elim [] fun k => " style=\x7b".toList ++ (styleReference k).toList ++ "\x7d".toList

@[simp]
theorem styleAttribute_none : styleAttribute none = [] := rfl

theorem styleAttribute_some (key : String) :
    styleAttribute (some key)
      = " style=\x7b".toList ++ (styleReference key).toList ++ "\x7d".toList := rfl

mutual
/-- The lines of an element at a level. A view without children closes itself. -/
def Element.lines (q : QuoteStyle) (level : Nat) : Element → List Line
  | .view key children =>
      let tag := "<View".toList ++ styleAttribute key
      if children.isEmpty then [⟨level, tag ++ " />".toList⟩]
      else
        ⟨level, tag ++ ">".toList⟩ ::
          (Element.rowLines q (level + 1) children ++ [⟨level, "</View>".toList⟩])
  | .text key content =>
      let tag := "<Text".toList ++ styleAttribute key
      [⟨level, tag ++ ">\x7b".toList ++ stringLiteral q content.toList ++ "\x7d</Text>".toList⟩]

def Element.rowLines (q : QuoteStyle) (level : Nat) : List Element → List Line
  | [] => []
  | e :: rest => e.lines q level ++ Element.rowLines q level rest
end

theorem Element.length_lines_pos (q : QuoteStyle) (level : Nat) (e : Element) :
    0 < (e.lines q level).length := by
  cases e with
  | view key children =>
      rw [Element.lines]
      split <;> simp
  | text key content =>
      rw [Element.lines]
      simp

theorem head?_viewTag (rest : List Char) : ("<View".toList ++ rest).head? = some '<' := by
  have first : "<View".toList.head? = some '<' := by decide
  rw [List.head?_append, first, Option.some_or]

theorem head?_textTag (rest : List Char) : ("<Text".toList ++ rest).head? = some '<' := by
  have first : "<Text".toList.head? = some '<' := by decide
  rw [List.head?_append, first, Option.some_or]

theorem head?_closingTag : "</View>".toList.head? = some '<' := by decide

mutual
/-- Every line of an element begins with a tag. -/
theorem Element.head?_lines (q : QuoteStyle) : ∀ (e : Element) (level : Nat),
    ∀ l ∈ e.lines q level, l.text.head? = some '<'
  | .view key children, level => by
      rw [Element.lines]
      split
      · rw [List.forall_mem_singleton, List.append_assoc]
        exact head?_viewTag _
      · rw [List.forall_mem_cons, List.forall_mem_append, List.forall_mem_singleton,
          List.append_assoc]
        exact ⟨head?_viewTag _, Element.head?_rowLines q children (level + 1), head?_closingTag⟩
  | .text key content, level => by
      rw [Element.lines, List.forall_mem_singleton]
      simp only [List.append_assoc]
      exact head?_textTag _

theorem Element.head?_rowLines (q : QuoteStyle) : ∀ (row : List Element) (level : Nat),
    ∀ l ∈ Element.rowLines q level row, l.text.head? = some '<'
  | [], level => by
      rw [Element.rowLines]
      exact List.forall_mem_nil _
  | e :: rest, level => by
      rw [Element.rowLines, List.forall_mem_append]
      exact ⟨Element.head?_lines q e level, Element.head?_rowLines q rest level⟩
end

/-! ## What elements are written with -/

theorem isOneLine_styleReference {key : String} (h : IsOneLine key.toList) :
    IsOneLine (styleReference key).toList := by
  rw [styleReference, String.toList_append, String.toList_append, isOneLine_append, isOneLine_append]
  exact ⟨⟨by decide, by decide⟩, h⟩

theorem isOneLine_styleAttribute {key : Option String} (h : ∀ k ∈ key, IsOneLine k.toList) :
    IsOneLine (styleAttribute key) := by
  cases key with
  | none => decide
  | some k =>
      rw [styleAttribute_some, isOneLine_append, isOneLine_append]
      exact ⟨⟨by decide, isOneLine_styleReference (h k rfl)⟩, by decide⟩

theorem writeStyleAttribute_eq {key : Option String} (h : ∀ k ∈ key, IsOneLine k.toList)
    (b : CodeBuffer) : writeStyleAttribute key b = b.writeChars (styleAttribute key) := by
  cases key with
  | none => rfl
  | some k =>
      have tokens : ∀ t ∈ [" style=\x7b".toList, (styleReference k).toList, "\x7d".toList],
          IsOneLine t := by
        rw [List.forall_mem_cons, List.forall_mem_cons, List.forall_mem_singleton]
        exact ⟨by decide, isOneLine_styleReference (h k rfl), by decide⟩
      rw [styleAttribute_some, List.append_assoc]
      exact (CodeBuffer.foldl_writeChars tokens).trans (by simp)

section

variable {b : CodeBuffer} (start : b.atLineStart = true) {key : Option String}
  (h : ∀ k ∈ key, IsOneLine k.toList)

include start h

theorem openingTag_eq :
    ((writeStyleAttribute key (b.write "<View")).write ">").newline
      = b.addLines [⟨b.level, "<View".toList ++ styleAttribute key ++ ">".toList⟩] := by
  have tokens : ∀ t ∈ ["<View".toList, styleAttribute key, ">".toList], IsOneLine t := by
    rw [List.forall_mem_cons, List.forall_mem_cons, List.forall_mem_singleton]
    exact ⟨by decide, isOneLine_styleAttribute h, by decide⟩
  rw [writeStyleAttribute_eq h]
  exact (CodeBuffer.newline_foldl_writeChars start tokens).trans (by simp)

theorem childlessView_eq :
    ((writeStyleAttribute key (b.write "<View")).write " />").newline
      = b.addLines ((Element.view key []).lines b.options.quoteStyle b.level) := by
  have tokens : ∀ t ∈ ["<View".toList, styleAttribute key, " />".toList], IsOneLine t := by
    rw [List.forall_mem_cons, List.forall_mem_cons, List.forall_mem_singleton]
    exact ⟨by decide, isOneLine_styleAttribute h, by decide⟩
  rw [writeStyleAttribute_eq h]
  exact (CodeBuffer.newline_foldl_writeChars start tokens).trans (by simp [Element.lines])

omit h in
/-- Between its tags, a view has the lines of its children one level further in. -/
theorem childrenView_eq {row : List Element} (nonempty : row.isEmpty = false) :
    (((b.addLines [⟨b.level, "<View".toList ++ styleAttribute key ++ ">".toList⟩]).indent.addLines
        (Element.rowLines b.options.quoteStyle (b.level + 1) row)).dedent.write "</View>").newline
      = b.addLines ((Element.view key row).lines b.options.quoteStyle b.level) := by
  have started (lines : List Line) : (b.addLines lines).atLineStart = true :=
    CodeBuffer.atLineStart_addLines start lines
  rw [CodeBuffer.dedent_addLines, CodeBuffer.dedent_indent, CodeBuffer.addLines_addLines,
    CodeBuffer.write_eq, CodeBuffer.newline_writeChars (started _), CodeBuffer.addLines_addLines]
  simp [Element.lines, nonempty]

theorem textElement_eq (content : String) :
    (((writeStyleAttribute key (b.write "<Text")).write ">\x7b").quote content
        |>.write "\x7d</Text>").newline
      = b.addLines ((Element.text key content).lines b.options.quoteStyle b.level) := by
  have tokens : ∀ t ∈ ["<Text".toList, styleAttribute key, ">\x7b".toList,
      stringLiteral b.options.quoteStyle content.toList, "\x7d</Text>".toList], IsOneLine t := by
    rw [List.forall_mem_cons, List.forall_mem_cons, List.forall_mem_cons, List.forall_mem_cons,
      List.forall_mem_singleton]
    exact ⟨by decide, isOneLine_styleAttribute h, by decide,
      isOneLine_stringLiteral _ _, by decide⟩
  rw [writeStyleAttribute_eq h, CodeBuffer.quote_eq]
  simp only [CodeBuffer.write_eq, CodeBuffer.options_writeChars]
  exact (CodeBuffer.newline_foldl_writeChars start tokens).trans (by simp [Element.lines])

end

theorem isOneLine_keyIn {label : String} {sets : List WrittenStyles} {s : WrittenStyles} :
    ∀ k ∈ keyIn label sets s, IsOneLine k.toList := by
  intro k hk
  unfold keyIn at hk
  split at hk
  · cases hk
  · rw [Option.mem_some] at hk
    rw [← hk]
    exact isOneLine_entryKey label _

end Viewsmith
