import Mathlib.Data.List.Basic
import Mathlib.Data.List.TakeWhile
import Viewsmith.Proofs.Code.Elements
import Viewsmith.Proofs.Reading.Literals

/-!
# Reading markup

A reader of markup. An element is a view that closes itself, a view around at least one element, or a
text around a string literal; spaces, tabs and line ends between tags are skipped. The reader is
given fuel, of which a text never needs more than it has characters. It reads the lines of an
element as that element, however they are laid out (`readElement_layOut`).
-/

namespace Viewsmith

/-! ## The reader -/

def isLayout (c : Char) : Bool := c = ' ' || c = '\t' || c = '\n' || c = '\r'

def skipLayout (text : List Char) : List Char := text.dropWhile isLayout

def readToken (token : String) (text : List Char) : Option (List Char) :=
  text.dropPrefix? token.toList

/-- Reads a reference to a style, if there is one. Its key ends at the first brace. -/
def readAttribute (text : List Char) : Option (Option String × List Char) :=
  match readToken " style=\x7bstyles." text with
  | none => some (none, text)
  | some rest =>
      (readToken "\x7d" (rest.dropWhile (· ≠ '\x7d'))).map fun after =>
        (some (String.ofList (rest.takeWhile (· ≠ '\x7d'))), after)

mutual
def readElement : Nat → List Char → Option (Element × List Char)
  | 0, _ => none
  | fuel + 1, text =>
      match readToken "<View" (skipLayout text) with
      | some rest => do
          let (key, rest) ← readAttribute rest
          match readToken " />" rest with
          | some rest => some (.view key [], rest)
          | none => do
              let rest ← readToken ">" rest
              let (children, rest) ← readElements fuel rest
              let rest ← readToken "</View>" (skipLayout rest)
              if children.isEmpty then none else some (.view key children, rest)
      | none => do
          let rest ← readToken "<Text" (skipLayout text)
          let (key, rest) ← readAttribute rest
          let rest ← readToken ">\x7b" rest
          let (content, rest) ← readLiteral rest
          let rest ← readToken "\x7d</Text>" rest
          some (.text key (String.ofList content), rest)

/-- Reads elements up to a closing tag. -/
def readElements : Nat → List Char → Option (List Element × List Char)
  | 0, _ => none
  | fuel + 1, text =>
      match readToken "</" (skipLayout text) with
      | some _ => some ([], text)
      | none => do
          let (first, rest) ← readElement fuel text
          let (others, rest) ← readElements fuel rest
          some (first :: others, rest)
end

/-- Reads a text that is one element and nothing else. -/
def readMarkup (text : List Char) : Option Element :=
  match readElement text.length text with
  | some (e, rest) => if (skipLayout rest).isEmpty then some e else none
  | none => none

/-! ## Tokens -/

theorem readToken_append (token : String) (s : List Char) :
    readToken token (token.toList ++ s) = some s :=
  List.dropPrefix?_append_of_beq s BEq.rfl

/-- A text that differs from a token before either of them ends is not that token. -/
theorem readToken_clash {token : String} {start : List Char} (longer : ¬ token.toList <+: start)
    (shorter : ¬ start <+: token.toList) (s : List Char) : readToken token (start ++ s) = none := by
  rw [readToken, Option.eq_none_iff_forall_ne_some]
  intro rest read
  obtain ⟨p, whole, same⟩ := List.dropPrefix?_eq_some_iff.mp read
  rw [beq_iff_eq] at same
  subst same
  have token_le : token.toList <+: start ++ s := ⟨rest, whole.symm⟩
  rcases List.prefix_or_prefix_of_prefix token_le (List.prefix_append start s) with h | h
  · exact longer h
  · exact shorter h

def IsBlank (text : List Char) : Prop := ∀ c ∈ text, isLayout c = true

theorem isBlank_append {s t : List Char} (hs : IsBlank s) (ht : IsBlank t) : IsBlank (s ++ t) := by
  intro c hc
  rcases List.mem_append.mp hc with h | h
  · exact hs c h
  · exact ht c h

theorem isBlank_indentation (o : WriterOptions) (level : Nat) : IsBlank (o.indentation level) := by
  intro c hc
  obtain ⟨unit, hu, member⟩ := List.mem_flatten.mp hc
  rw [List.eq_of_mem_replicate hu, WriterOptions.indentUnit] at member
  split at member
  · rw [List.mem_singleton.mp member]
    decide
  · rw [List.eq_of_mem_replicate member]
    decide

theorem isBlank_lineEnd (o : WriterOptions) : IsBlank o.lineEnd.text.toList := by
  rw [IsBlank, ← List.all_eq_true]
  cases o.lineEnd <;> decide

/-- What follows layout is where a reader goes on, if it begins with a character that is none. -/
theorem skipLayout_append {blank s : List Char} {c : Char} (layout : IsBlank blank)
    (first : s.head? = some c) (visible : isLayout c = false) : skipLayout (blank ++ s) = s := by
  obtain ⟨rest, rfl⟩ : ∃ rest, s = c :: rest := by
    cases s with
    | nil => cases first
    | cons d rest => exact ⟨rest, by rw [Option.some.inj first]⟩
  rw [skipLayout, List.dropWhile_append_of_pos layout, List.dropWhile_cons_of_neg (by simp [visible])]

theorem skipLayout_of_isBlank {text : List Char} (layout : IsBlank text) : skipLayout text = [] := by
  rw [skipLayout, List.dropWhile_eq_nil_iff]
  exact layout

/-! ## Reading what was written -/

/-- Whether a key can be read back: it does not hold the brace that ends it. -/
def IsReadableKey (key : Option String) : Prop := ∀ k ∈ key, '\x7d' ∉ k.toList

theorem readAttribute_styleAttribute {key : Option String} (readable : IsReadableKey key)
    {start : List Char} (longer : ¬ " style=\x7bstyles.".toList <+: start)
    (shorter : ¬ start <+: " style=\x7bstyles.".toList) (s : List Char) :
    readAttribute (styleAttribute key ++ (start ++ s)) = some (key, start ++ s) := by
  cases key with
  | none =>
      rw [styleAttribute_none, List.nil_append, readAttribute, readToken_clash longer shorter]
  | some k =>
      have within : ∀ c ∈ k.toList, decide (c ≠ '\x7d') = true := by
        intro c hc
        rw [decide_eq_true_iff]
        rintro rfl
        exact readable k rfl hc
      have opening : " style=\x7b".toList ++ stylesName.toList ++ ".".toList
          = " style=\x7bstyles.".toList := by decide
      have closing : "\x7d".toList = ['\x7d'] := by decide
      have shape : styleAttribute (some k) ++ (start ++ s)
          = " style=\x7bstyles.".toList ++ (k.toList ++ '\x7d' :: (start ++ s)) := by
        rw [styleAttribute_some, styleReference, String.toList_append, String.toList_append,
          ← opening, closing]
        simp only [List.append_assoc, List.singleton_append]
      have before : (k.toList ++ '\x7d' :: (start ++ s)).takeWhile (· ≠ '\x7d') = k.toList := by
        rw [List.takeWhile_append_of_pos within, List.takeWhile_cons_of_neg (by decide),
          List.append_nil]
      have after : (k.toList ++ '\x7d' :: (start ++ s)).dropWhile (· ≠ '\x7d')
          = "\x7d".toList ++ (start ++ s) := by
        rw [List.dropWhile_append_of_pos within, List.dropWhile_cons_of_neg (by decide), closing]
        rfl
      rw [shape, readAttribute, readToken_append]
      simp only [before, after, readToken_append, String.ofList_toList, Option.map_some]

/-- A line after some layout: what is left when the layout is skipped. -/
theorem skipLayout_layOut {o : WriterOptions} {level : Nat} {text blank : List Char} {c : Char}
    (first : text.head? = some c) (visible : isLayout c = false) (layout : IsBlank blank)
    (s : List Char) :
    skipLayout (blank ++ (Line.layOut o ⟨level, text⟩ ++ s))
      = text ++ (o.lineEnd.text.toList ++ s) := by
  have begins : (text ++ (o.lineEnd.text.toList ++ s)).head? = some c := by
    rw [List.head?_append, first, Option.some_or]
  rw [Line.layOut, if_neg (ne_nil_of_head? first), List.append_assoc, List.append_assoc,
    ← List.append_assoc blank]
  exact skipLayout_append (isBlank_append layout (isBlank_indentation o level)) begins visible

/-- A line of a tag, after some layout. -/
theorem skipLayout_line {o : WriterOptions} {level : Nat} {text blank : List Char}
    (tag : text.head? = some '<') (layout : IsBlank blank) (s : List Char) :
    skipLayout (blank ++ (Line.layOut o ⟨level, text⟩ ++ s))
      = text ++ (o.lineEnd.text.toList ++ s) :=
  skipLayout_layOut tag (by decide) layout s

section

variable {o : WriterOptions} {q : QuoteStyle} {level fuel : Nat} {key : Option String}
  (readable : IsReadableKey key) {blank : List Char} (layout : IsBlank blank) (s : List Char)

include readable layout

theorem readElement_text (content : String) :
    readElement (fuel + 1) (blank ++ (layOutLines o ((Element.text key content).lines q level) ++ s))
      = some (.text key content, o.lineEnd.text.toList ++ s) := by
  have tag : ("<Text".toList ++ styleAttribute key ++ ">\x7b".toList
      ++ stringLiteral q content.toList ++ "\x7d</Text>".toList).head? = some '<' := by
    simp only [List.append_assoc]
    exact head?_textTag _
  have view : ¬ "<View".toList <+: "<Text".toList ∧ ¬ "<Text".toList <+: "<View".toList := by
    decide
  have bracket : ¬ " style=\x7bstyles.".toList <+: ">\x7b".toList ∧
      ¬ ">\x7b".toList <+: " style=\x7bstyles.".toList := by decide
  rw [Element.lines, layOutLines_cons, layOutLines_nil, List.append_nil, readElement,
    skipLayout_line tag layout]
  simp only [List.append_assoc, readToken_clash view.1 view.2, readToken_append,
    readAttribute_styleAttribute readable bracket.1 bracket.2, readLiteral_stringLiteral,
    String.ofList_toList, bind, Option.bind]

theorem readElement_childless :
    readElement (fuel + 1) (blank ++ (layOutLines o ((Element.view key []).lines q level) ++ s))
      = some (.view key [], o.lineEnd.text.toList ++ s) := by
  have tag : ("<View".toList ++ styleAttribute key ++ " />".toList).head? = some '<' := by
    rw [List.append_assoc]
    exact head?_viewTag _
  have slash : ¬ " style=\x7bstyles.".toList <+: " />".toList ∧
      ¬ " />".toList <+: " style=\x7bstyles.".toList := by decide
  rw [Element.lines, List.isEmpty_nil, if_pos rfl, layOutLines_cons, layOutLines_nil,
    List.append_nil, readElement, skipLayout_line tag layout]
  simp only [List.append_assoc, readToken_append,
    readAttribute_styleAttribute readable slash.1 slash.2, bind, Option.bind]

/-- A view around a row of elements that can be read. -/
theorem readElement_children {row : List Element} (nonempty : row.isEmpty = false)
    (below : ∀ {blank : List Char} (s : List Char), IsBlank blank →
      ∃ blank', IsBlank blank' ∧
        readElements fuel (blank ++ (layOutLines o (Element.rowLines q (level + 1) row)
            ++ (layOutLines o [⟨level, "</View>".toList⟩] ++ s)))
          = some (row, blank' ++ (layOutLines o [⟨level, "</View>".toList⟩] ++ s))) :
    readElement (fuel + 1) (blank ++ (layOutLines o ((Element.view key row).lines q level) ++ s))
      = some (.view key row, o.lineEnd.text.toList ++ s) := by
  have tag : ("<View".toList ++ styleAttribute key ++ ">".toList).head? = some '<' := by
    rw [List.append_assoc]
    exact head?_viewTag _
  have bracket : ¬ " style=\x7bstyles.".toList <+: ">".toList ∧
      ¬ ">".toList <+: " style=\x7bstyles.".toList := by decide
  have slash : ¬ " />".toList <+: ">".toList ∧ ¬ ">".toList <+: " />".toList := by decide
  obtain ⟨blank', layout', inside⟩ := below s (isBlank_lineEnd o)
  rw [Element.lines, nonempty, if_neg Bool.false_ne_true, layOutLines_cons, List.append_assoc,
    readElement, skipLayout_line tag layout]
  rw [layOutLines_append, List.append_assoc]
  simp only [List.append_assoc, readToken_append,
    readAttribute_styleAttribute readable bracket.1 bracket.2, readToken_clash slash.1 slash.2, bind,
    Option.bind, inside]
  have close : skipLayout (blank' ++ (layOutLines o [⟨level, "</View>".toList⟩] ++ s))
      = "</View>".toList ++ (o.lineEnd.text.toList ++ s) := by
    rw [layOutLines_cons, layOutLines_nil, List.append_nil]
    exact skipLayout_line head?_closingTag layout' s
  rw [close, readToken_append]
  simp only [nonempty, Bool.false_eq_true, if_false]

end

theorem readToken_eq_some {token : String} {text rest : List Char}
    (read : readToken token text = some rest) : text = token.toList ++ rest := by
  obtain ⟨start, whole, same⟩ := List.dropPrefix?_eq_some_iff.mp read
  rw [whole, beq_iff_eq.mp same]

theorem readToken_of_head {token : String} {c : Char} {text : List Char}
    (first : token.toList.head? = some c) (other : text.head? ≠ some c) :
    readToken token text = none := by
  cases read : readToken token text with
  | none => rfl
  | some rest =>
      rw [readToken_eq_some read, List.head?_append, first, Option.some_or] at other
      exact absurd rfl other

/-- Where an element can be read there is no closing tag. -/
theorem not_closing_of_readElement {fuel : Nat} {text : List Char} {r : Element × List Char}
    (read : readElement fuel text = some r) : readToken "</" (skipLayout text) = none := by
  have view : ¬ "</".toList <+: "<View".toList ∧ ¬ "<View".toList <+: "</".toList := by
    decide
  have textTag : ¬ "</".toList <+: "<Text".toList ∧ ¬ "<Text".toList <+: "</".toList := by
    decide
  cases fuel with
  | zero =>
      rw [readElement] at read
      cases read
  | succ fuel =>
      rw [readElement] at read
      cases opened : readToken "<View" (skipLayout text) with
      | some rest =>
          rw [readToken_eq_some opened]
          exact readToken_clash view.1 view.2 rest
      | none =>
          rw [opened] at read
          cases begun : readToken "<Text" (skipLayout text) with
          | some rest =>
              rw [readToken_eq_some begun]
              exact readToken_clash textTag.1 textTag.2 rest
          | none =>
              rw [begun] at read
              cases read

variable {keyOf : Node → Option String} {o : WriterOptions} {q : QuoteStyle}

/-- A row before a closing tag is read as that row if its nodes are. -/
def ReadsRow (keyOf : Node → Option String) (o : WriterOptions) (q : QuoteStyle)
    (nodes : List Node) : Prop :=
  ∀ {level outer fuel : Nat} {blank : List Char} (s : List Char),
    (Element.rowLines q level (Node.elements keyOf nodes)).length < fuel → IsBlank blank →
      ∃ blank', IsBlank blank' ∧
        readElements fuel (blank ++ (layOutLines o (Element.rowLines q level (Node.elements keyOf nodes))
            ++ (layOutLines o [⟨outer, "</View>".toList⟩] ++ s)))
          = some (Node.elements keyOf nodes,
              blank' ++ (layOutLines o [⟨outer, "</View>".toList⟩] ++ s))

theorem readElement_layOut_step {n : Node} (readable : ∀ n, IsReadableKey (keyOf n))
    (below : ReadsRow keyOf o q n.children) {level fuel : Nat} {blank : List Char} (s : List Char)
    (enough : ((n.element keyOf).lines q level).length ≤ fuel) (layout : IsBlank blank) :
    readElement fuel (blank ++ (layOutLines o ((n.element keyOf).lines q level) ++ s))
      = some (n.element keyOf, o.lineEnd.text.toList ++ s) := by
  have lines := (n.element keyOf).length_lines_pos q level
  obtain ⟨fuel, rfl⟩ : ∃ k, fuel = k + 1 := Nat.exists_eq_succ_of_ne_zero (by omega)
  rw [Node.element_eq] at enough ⊢
  cases container : n.kind.isContainer with
  | false =>
      rw [if_neg Bool.false_ne_true]
      exact readElement_text (readable n) layout s n.content
  | true =>
      rw [if_pos rfl]
      by_cases childless : n.children = []
      · rw [childless, Node.elements]
        exact readElement_childless (readable n) layout s
      · have nonempty : (Node.elements keyOf n.children).isEmpty = false := by
          rw [Node.elements_eq_map, List.isEmpty_map]
          simpa using childless
        rw [container, if_pos rfl, Element.lines, nonempty, if_neg Bool.false_ne_true] at enough
        apply readElement_children (readable n) layout s nonempty
        intro blank s layout
        apply below s _ layout
        simp only [List.length_cons, List.length_append, List.length_nil] at enough
        omega

mutual
/-- The lines of a node's element are read as that element, whatever comes after them. -/
theorem readElement_layOut (readable : ∀ n, IsReadableKey (keyOf n)) : ∀ (n : Node)
    {level fuel : Nat} {blank : List Char} (s : List Char),
    ((n.element keyOf).lines q level).length ≤ fuel → IsBlank blank →
    readElement fuel (blank ++ (layOutLines o ((n.element keyOf).lines q level) ++ s))
      = some (n.element keyOf, o.lineEnd.text.toList ++ s)
  | ⟨_, _, _, _, children, _, _⟩, _, _, _, s, enough, layout =>
      readElement_layOut_step readable (readElements_layOut readable children) s enough layout

theorem readElements_layOut (readable : ∀ n, IsReadableKey (keyOf n)) :
    ∀ nodes : List Node, ReadsRow keyOf o q nodes
  -- The bound is strict, for the end of the row takes a unit of fuel though it has no line.
  | [], level, outer, fuel, blank, s, enough, layout => by
      rw [Node.elements, Element.rowLines, List.length_nil] at enough
      obtain ⟨fuel, rfl⟩ : ∃ k, fuel = k + 1 := Nat.exists_eq_succ_of_ne_zero (by omega)
      have tag : "</View>".toList = "</".toList ++ "View>".toList := by decide
      have close : readToken "</" (skipLayout (blank
          ++ (layOutLines o [⟨outer, "</View>".toList⟩] ++ s)))
            = some ("View>".toList ++ (o.lineEnd.text.toList ++ s)) := by
        rw [layOutLines_cons, layOutLines_nil, List.append_nil, skipLayout_line head?_closingTag layout, tag,
          List.append_assoc, readToken_append]
      refine ⟨blank, layout, ?_⟩
      rw [Node.elements, Element.rowLines, layOutLines_nil, List.nil_append, readElements, close]
  | n :: rest, level, outer, fuel, blank, s, enough, layout => by
      rw [Node.elements, Element.rowLines, List.length_append] at enough
      have lines := (n.element keyOf).length_lines_pos q level
      obtain ⟨fuel, rfl⟩ : ∃ k, fuel = k + 1 := Nat.exists_eq_succ_of_ne_zero (by omega)
      have firstEnough : ((n.element keyOf).lines q level).length ≤ fuel := by omega
      have othersEnough : (Element.rowLines q level (Node.elements keyOf rest)).length < fuel := by
        omega
      have first := readElement_layOut readable n
        (layOutLines o (Element.rowLines q level (Node.elements keyOf rest))
          ++ (layOutLines o [⟨outer, "</View>".toList⟩] ++ s)) firstEnough layout
      obtain ⟨blank', layout', others⟩ :=
        readElements_layOut readable rest s othersEnough (isBlank_lineEnd o)
      refine ⟨blank', layout', ?_⟩
      rw [Node.elements, Element.rowLines, layOutLines_append, readElements]
      simp only [List.append_assoc]
      rw [not_closing_of_readElement first]
      simp only [first, bind, Option.bind]
      rw [others]
end

/-- The lines of a node's element are read as that element and nothing else. -/
theorem readMarkup_layOutLines (readable : ∀ n, IsReadableKey (keyOf n)) (n : Node) (level : Nat) :
    readMarkup (layOutLines o ((n.element keyOf).lines q level)) = some (n.element keyOf) := by
  have enough := length_le_layOutLines o ((n.element keyOf).lines q level)
  have nothing : IsBlank [] := List.forall_mem_nil _
  have read := readElement_layOut (o := o) readable n [] enough nothing
  rw [List.nil_append, List.append_nil, List.append_nil] at read
  rw [readMarkup, read]
  simp only [skipLayout_of_isBlank (isBlank_lineEnd o), List.isEmpty_nil, if_true]

end Viewsmith
