import Mathlib.Data.List.Basic
import Viewsmith.Proofs.Code.Previews
import Viewsmith.Proofs.Reading.LineTexts

/-!
# Names that a module declares

A reader of the names that a module declares. Blocks are followed by how lines end and begin: a line
that ends with an opening brace or parenthesis opens a block, and one that begins with a closing one
closes it. What is declared outside of all blocks is a name of the module. Of the lines of a design
these are the names that are imported, the component and the style table (`outerNames_sourceLines`).
-/

namespace Viewsmith

/-! ## The reader -/

def readUpTo? (token : String) (stop : Char) (line : List Char) : Option (List Char) :=
  (readToken token line).map (·.takeWhile (· ≠ stop))

/-- The names that an import gives to what it imports: the last word of each specifier. -/
def importedAs (specifiers : List Char) : List String :=
  (specifiers.splitOn ',').map fun specifier =>
    String.ofList ((specifier.splitOn ' ').getLast?.getD [])

def declaredName? (line : List Char) : Option (List Char) :=
  (readExport? line).or <| (readUpTo? "import " ' ' line).or <|
    (readUpTo? "const " ' ' line).or (readUpTo? "class " ' ' line)

/-- The names that a line declares: those of an import in braces, or one. -/
def declaredNames (line : List Char) : List String :=
  match readUpTo? "import \x7b" '\x7d' line with
  | some specifiers => importedAs specifiers
  | none => (declaredName? line).toList.map String.ofList

def opensBlock (line : List Char) : Bool := line.getLast?.any fun c => c = '\x7b' || c = '('

def closesBlock (line : List Char) : Bool := line.head?.any fun c => c = '\x7d' || c = ')'

/-- The names that lines declare outside of all blocks, and the number of blocks that are open in the
end. -/
def outerNames : Nat → List (List Char) → List String × Nat
  | depth, [] => ([], depth)
  | depth, line :: rest =>
      let depth := if closesBlock line then depth - 1 else depth
      let names := if depth = 0 then declaredNames line else []
      let others := outerNames (if opensBlock line then depth + 1 else depth) rest
      (names ++ others.1, others.2)

def moduleNames (code : List Char) : List String := (outerNames 0 (lineTexts code)).1

/-! ## Blocks -/

theorem outerNames_append (front back : List (List Char)) : ∀ {depth inner : Nat}
    {names : List String}, outerNames depth front = (names, inner) →
      outerNames depth (front ++ back)
        = (names ++ (outerNames inner back).1, (outerNames inner back).2) := by
  induction front with
  | nil =>
      intro depth inner names read
      obtain ⟨rfl, rfl⟩ := Prod.mk.inj read
      rfl
  | cons line rest ih =>
      intro depth inner names read
      obtain ⟨rfl, rfl⟩ := Prod.mk.inj read
      rw [List.cons_append, outerNames, ih rfl, List.append_assoc]

def IsPlain (line : List Char) : Prop := opensBlock line = false ∧ closesBlock line = false

instance (line : List Char) : Decidable (IsPlain line) := inferInstanceAs (Decidable (_ ∧ _))

/-- Whether lines that stand in a block declare nothing and leave the block open. -/
def IsInner (lines : List (List Char)) : Prop :=
  ∀ depth, outerNames (depth + 1) lines = ([], depth + 1)

theorem outerNames_plain {line : List Char} (plain : IsPlain line) :
    outerNames 0 [line] = (declaredNames line, 0) := by
  rw [outerNames, plain.1, plain.2]
  simp [outerNames]

theorem isInner_nil : IsInner [] := fun _ => rfl

theorem IsInner.append {front back : List (List Char)} (first : IsInner front) (second : IsInner back) :
    IsInner (front ++ back) := by
  intro depth
  rw [outerNames_append front back (first depth), second depth]
  rfl

theorem isInner_plain {line : List Char} (plain : IsPlain line) : IsInner [line] := by
  intro depth
  rw [outerNames, plain.1, plain.2]
  rfl

theorem isInner_of_forall {lines : List (List Char)} (plain : ∀ line ∈ lines, IsPlain line) :
    IsInner lines := by
  induction lines with
  | nil => exact isInner_nil
  | cons line rest ih =>
      rw [List.forall_mem_cons] at plain
      exact (isInner_plain plain.1).append (ih plain.2)

theorem IsInner.flatMap {α : Type} {f : α → List (List Char)} {xs : List α}
    (each : ∀ x ∈ xs, IsInner (f x)) : IsInner (xs.flatMap f) := by
  induction xs with
  | nil => exact isInner_nil
  | cons x rest ih =>
      rw [List.forall_mem_cons] at each
      rw [List.flatMap_cons]
      exact each.1.append (ih each.2)

/-- Whether one line opens a block and another closes it. -/
structure IsBlock (opening closing : List Char) : Prop where
  opens : opensBlock opening = true
  starts : closesBlock opening = false
  closes : closesBlock closing = true
  ends : opensBlock closing = false

/-- A block in a block declares nothing. -/
theorem IsInner.block {opening closing : List Char} (h : IsBlock opening closing)
    {inner : List (List Char)} (inside : IsInner inner) : IsInner (opening :: (inner ++ [closing])) := by
  intro depth
  rw [outerNames, h.opens, h.starts]
  simp only [Bool.false_eq_true, if_false, if_true]
  rw [outerNames_append inner [closing] (inside (depth + 1)), outerNames, h.closes, h.ends]
  simp [outerNames]

/-- A block outside of all others declares what the line that opens it declares. -/
theorem outerNames_block {opening closing : List Char} (h : IsBlock opening closing)
    {inner : List (List Char)} (inside : IsInner inner) (nothing : declaredNames closing = []) :
    outerNames 0 (opening :: (inner ++ [closing])) = (declaredNames opening, 0) := by
  rw [outerNames, h.opens, h.starts]
  simp only [Bool.false_eq_true, if_false, if_true]
  rw [outerNames_append inner [closing] (inside 0), outerNames, h.closes, h.ends]
  simp [outerNames, nothing]

/-! ## Ends of lines -/

theorem opensBlock_append {back : List Char} (nonempty : back ≠ []) (front : List Char) :
    opensBlock (front ++ back) = opensBlock back := by
  rw [opensBlock, opensBlock, List.getLast?_append_of_ne_nil _ nonempty]

theorem closesBlock_append {front : List Char} (nonempty : front ≠ []) (back : List Char) :
    closesBlock (front ++ back) = closesBlock front := by
  rw [closesBlock, closesBlock, List.head?_append_of_ne_nil _ nonempty]

theorem closesBlock_of_head? {line : List Char} {c : Char} (first : line.head? = some c)
    (other : c ∉ ['\x7d', ')']) : closesBlock line = false := by
  rw [closesBlock, first]
  simpa using other

/-- A line is plain if its first character is none that closes a block, and its last part none that
opens one. -/
theorem isPlain_append {front back : List Char} {c : Char} (first : (front ++ back).head? = some c)
    (other : c ∉ ['\x7d', ')']) (nonempty : back ≠ []) (last : opensBlock back = false) :
    IsPlain (front ++ back) :=
  ⟨(opensBlock_append nonempty front).trans last, closesBlock_of_head? first other⟩

/-! ## Lines of a function -/

theorem isPlain_importLine (q : QuoteStyle) (package : Package) (names : List String) :
    IsPlain (importLine q package names).text :=
  isPlain_append (head?_importLine q package names) (by decide) (by decide) (by decide)

theorem isPlain_hookLine (q : QuoteStyle) (e : StateEntry) : IsPlain (hookLine q e).text :=
  isPlain_append (head?_hookLine q e) (by decide) (by decide) (by decide)

theorem isBlock_headerLine (options : ComponentOptions) (design : Design) :
    IsBlock (design.headerLine options).text "\x7d".toList where
  opens := opensBlock_append (by decide) _
  starts := closesBlock_of_head? (design.head?_headerLine options) (by decide)
  closes := by decide
  ends := by decide

section

variable {keyOf : Node → Option String} {q : QuoteStyle}

mutual
/-- Every line of an element ends with the end of a tag. -/
theorem Element.getLast?_lines (q : QuoteStyle) : ∀ (e : Element) (level : Nat),
    ∀ l ∈ e.lines q level, l.text.getLast? = some '>'
  | .view key children, level => by
      have childless : " />".toList.getLast? = some '>' := by decide
      have opening : ">".toList.getLast? = some '>' := by decide
      have closing : "</View>".toList.getLast? = some '>' := by decide
      rw [Element.lines]
      split
      · rw [List.forall_mem_singleton, List.getLast?_append, childless, Option.some_or]
      · rw [List.forall_mem_cons, List.forall_mem_append, List.forall_mem_singleton,
          List.getLast?_append, opening, Option.some_or]
        exact ⟨rfl, Element.getLast?_rowLines q children (level + 1), closing⟩
  | .text key content, level => by
      have closing : "\x7d</Text>".toList.getLast? = some '>' := by decide
      rw [Element.lines, List.forall_mem_singleton, List.getLast?_append, closing, Option.some_or]

theorem Element.getLast?_rowLines (q : QuoteStyle) : ∀ (row : List Element) (level : Nat),
    ∀ l ∈ Element.rowLines q level row, l.text.getLast? = some '>'
  | [], level => by
      rw [Element.rowLines]
      exact List.forall_mem_nil _
  | e :: rest, level => by
      rw [Element.rowLines, List.forall_mem_append]
      exact ⟨Element.getLast?_lines q e level, Element.getLast?_rowLines q rest level⟩
end

theorem isPlain_elementLine (e : Element) (level : Nat) :
    ∀ l ∈ e.lines q level, IsPlain l.text := by
  intro l hl
  constructor
  · rw [opensBlock, Element.getLast?_lines q e level l hl]
    decide
  · exact closesBlock_of_head? (Element.head?_lines q e level l hl) (by decide)

/-- What a component returns is a block of plain lines. -/
theorem isInner_returnLines (options : ComponentOptions) (design : Design) :
    IsInner ((design.returnLines options q keyOf).map Line.text) := by
  rw [Design.returnLines]
  split
  · exact isInner_nil
  · rw [List.map_cons, List.map_append, List.map_singleton]
    refine IsInner.block ⟨by decide, by decide, by decide, by decide⟩ (isInner_of_forall ?_)
    rw [List.forall_mem_map]
    exact isPlain_elementLine _ 2

theorem declaredNames_of_head {line : List Char} {name : List Char} (other : line.head? ≠ some 'i')
    (declared : declaredName? line = some name) : declaredNames line = [String.ofList name] := by
  have first : "import \x7b".toList.head? = some 'i' := by decide
  rw [declaredNames, readUpTo?, readToken_of_head first other, Option.map_none, declared]
  rfl

theorem declaredNames_headerLine (options : ComponentOptions) (design : Design) :
    declaredNames (design.headerLine options).text = [pascalName design.root.name] := by
  have parameters : "() \x7b".toList = '(' :: [')', ' ', '\x7b'] := by decide
  have exported : readExport? (design.headerLine options).text
      = some (pascalName design.root.name).toList := by
    rw [Design.headerLine, parameters]
    simp only [List.append_assoc]
    exact readExport?_keywords _ (parenthesis_notMem_pascalName _) _
  have declared : declaredName? (design.headerLine options).text
      = some (pascalName design.root.name).toList := by
    rw [declaredName?, exported, Option.some_or]
  rw [declaredNames_of_head (by rw [Design.head?_headerLine]; decide) declared, String.ofList_toList]

/-- A function declares its own name outside of it. -/
theorem outerNames_functionLines (options : ComponentOptions) (design : Design) :
    outerNames 0 ((design.functionLines options q keyOf).map Line.text)
      = ([pascalName design.root.name], 0) := by
  have hooks : IsInner (((design.rootState.getD []).map (hookLine q)).map Line.text) := by
    apply isInner_of_forall
    rw [List.forall_mem_map, List.forall_mem_map]
    intro e _
    exact isPlain_hookLine q e
  have returned : IsInner ((design.returnLines options q keyOf).map Line.text) :=
    isInner_returnLines options design
  rw [Design.functionLines, List.cons_append, List.map_cons, List.map_append, List.map_append,
    List.map_singleton,
    outerNames_block (isBlock_headerLine options design) (hooks.append returned) (by decide),
    declaredNames_headerLine]

end

/-! ## Lines of a style table -/

section

variable {q : QuoteStyle}

theorem closesBlock_propertyText (q : QuoteStyle) (property : String) :
    closesBlock (propertyText q property) = false := by
  have others : ∀ c ∈ ['\x7d', ')'], (!continuesKey c) = true := List.all_eq_true.mp (by decide)
  unfold propertyText
  split
  · rename_i plain
    cases shape : property.toList with
    | nil => rfl
    | cons c rest =>
        refine closesBlock_of_head? (c := c) rfl fun inside => ?_
        have other := others c inside
        rw [continuesKey_of_mem plain (shape ▸ List.mem_cons_self)] at other
        cases other
  · obtain ⟨rest, shape⟩ := exists_cons_stringLiteral q property.toList
    rw [shape]
    exact closesBlock_of_head? rfl (by cases q <;> decide)

theorem isPlain_declarationLine (q : QuoteStyle) (d : String × WrittenValue) :
    IsPlain (declarationLine q d).text := by
  obtain ⟨c, rest, shape, -⟩ := exists_cons_propertyText q d.1
  have nonempty : propertyText q d.1 ≠ [] := by
    rw [shape]
    exact List.cons_ne_nil c rest
  constructor
  · exact opensBlock_append (by decide) _
  · simp only [declarationLine, List.append_assoc]
    rw [closesBlock_append nonempty, closesBlock_propertyText]

theorem isBlock_entry (label : String) (number : Nat) :
    IsBlock ((entryKey label number).toList ++ ": \x7b".toList) "\x7d,".toList where
  opens := opensBlock_append (by decide) _
  starts := by
    obtain ⟨c, rest, shape, identifier⟩ := exists_cons_entryKey label number
    have others : ∀ c ∈ ['\x7d', ')'], decide (¬ IsIdentifierChar c) = true :=
      List.all_eq_true.mp (by decide)
    rw [shape]
    exact closesBlock_of_head? rfl fun inside => of_decide_eq_true (others c inside) identifier
  closes := by decide
  ends := by decide

theorem isInner_entryLines (q : QuoteStyle) (label : String) (number : Nat)
    (declarations : WrittenStyles) :
    IsInner ((entryLines q ⟨entryKey label number, declarations⟩).map Line.text) := by
  have inside : IsInner ((declarations.map (declarationLine q)).map Line.text) := by
    apply isInner_of_forall
    rw [List.forall_mem_map, List.forall_mem_map]
    intro d _
    exact isPlain_declarationLine q d
  rw [entryLines, List.cons_append, List.map_cons, List.map_append, List.map_singleton]
  exact inside.block (isBlock_entry label number)

/-- A style table declares its own name. -/
theorem outerNames_tableLines (q : QuoteStyle) (label : String) (sets : List WrittenStyles) :
    outerNames 0 ((tableLines q (numberedEntries label sets)).map Line.text) = (["styles"], 0) := by
  have declared : declaredNames "const styles = \x7b\x7d;".toList = ["styles"] ∧
      declaredNames "const styles = StyleSheet.create(\x7b".toList = ["styles"] := by
    decide
  rw [tableLines]
  split
  · rw [List.map_singleton, outerNames_plain (by decide), declared.1]
  · have entries : IsInner (((numberedEntries label sets).flatMap (entryLines q)).map Line.text) := by
      rw [List.map_flatMap]
      apply IsInner.flatMap
      intro e he
      obtain ⟨number, _, rfl⟩ := List.mem_mapIdx.mp he
      exact isInner_entryLines q label number _
    rw [List.cons_append, List.map_cons, List.map_append, List.map_singleton,
      outerNames_block ⟨by decide, by decide, by decide, by decide⟩ entries (by decide), declared.2]

end

/-! ## Files -/

theorem importedAs_importedNames {options : ComponentOptions} {design : Design} {package : Package}
    (used : design.importedNames options package ≠ []) :
    importedAs (", ".intercalate (design.importedNames options package)).toList
      = design.importedNames options package := by
  revert used
  cases package with
  | react =>
      simp only [Design.importedNames]
      split_ifs <;> decide
  | reactNative =>
      simp only [Design.importedNames]
      split_ifs <;> decide

theorem brace_notMem_importedNames (options : ComponentOptions) (design : Design) (package : Package) :
    '\x7d' ∉ (", ".intercalate (design.importedNames options package)).toList := by
  cases package with
  | react =>
      simp only [Design.importedNames]
      split_ifs <;> decide
  | reactNative =>
      simp only [Design.importedNames]
      split_ifs <;> decide

theorem declaredNames_importLine (q : QuoteStyle) (package : Package) {names : List String}
    (braceless : '\x7d' ∉ (", ".intercalate names).toList) :
    declaredNames (importLine q package names).text
      = importedAs (", ".intercalate names).toList := by
  have closing : "\x7d from ".toList = '\x7d' :: " from ".toList := by decide
  have within : ∀ c ∈ (", ".intercalate names).toList, decide (c ≠ '\x7d') = true := by
    intro c inside
    rw [decide_eq_true_iff]
    rintro rfl
    exact braceless inside
  simp only [importLine, List.append_assoc]
  rw [declaredNames, readUpTo?, readToken_append, Option.map_some,
    List.takeWhile_append_of_pos within, closing, List.cons_append,
    List.takeWhile_cons_of_neg (p := (· ≠ '\x7d')) (by decide), List.append_nil]

/-- An import statement, if there is one, declares the names that it imports. -/
theorem outerNames_statement (options : ComponentOptions) (q : QuoteStyle) (design : Design)
    (package : Package) :
    outerNames 0 ((if design.importedNames options package = [] then []
        else [importLine q package (design.importedNames options package)]).map Line.text)
      = (design.importedNames options package, 0) := by
  split
  · rename_i none
    rw [none]
    rfl
  · rename_i used
    rw [List.map_singleton, outerNames_plain (isPlain_importLine q package _),
      declaredNames_importLine q package (brace_notMem_importedNames options design package),
      importedAs_importedNames used]

theorem outerNames_importLines (options : ComponentOptions) (q : QuoteStyle) (design : Design) :
    outerNames 0 ((importLines q (design.importedNames options)).map Line.text)
      = (design.importedNames options .react ++ design.importedNames options .reactNative, 0) := by
  rw [importLines_eq, List.map_append, outerNames_append _ _ (outerNames_statement options q design .react),
    outerNames_statement options q design .reactNative]

/-- The lines of a design declare what they import, the component and the style table. -/
theorem outerNames_sourceLines (options : ComponentOptions) (q : QuoteStyle) (design : Design) :
    outerNames 0 ((design.sourceLines options q).map Line.text)
      = (design.importedNames options .react ++ design.importedNames options .reactNative
          ++ [pascalName design.root.name, "styles"], 0) := by
  have blank : outerNames 0 [[]] = ([], 0) := by decide
  have statements : outerNames 0 ((if importLines q (design.importedNames options) = [] then []
        else importLines q (design.importedNames options) ++ [⟨0, []⟩]).map Line.text)
      = (design.importedNames options .react ++ design.importedNames options .reactNative, 0) := by
    have written := outerNames_importLines options q design
    split
    · rename_i none
      rwa [none] at written
    · rw [List.map_append, List.map_singleton, outerNames_append _ _ written, blank, List.append_nil]
  have function : outerNames 0 ((design.functionLines options q (design.styling options).keyOf).map
      Line.text) = ([pascalName design.root.name], 0) := outerNames_functionLines options design
  have table := outerNames_tableLines q options.stylePrefix
    (nodeSets options (design.renderedNodes options))
  rw [Design.sourceLines, List.append_assoc, List.append_assoc, List.map_append, List.map_append,
    List.map_append, List.map_singleton, outerNames_append _ _ statements,
    outerNames_append _ _ function, outerNames_append _ _ blank, Design.styling, table]
  simp

end Viewsmith
