import Mathlib.Data.List.Basic
import Viewsmith.Code.SourceFile
import Viewsmith.Proofs.Code.Elements

/-!
# The lines of a source file

The lines of the source file of a design, by recursion on the design. They depend on the settings
of the component and on the quotes, and on nothing else that the settings of the writer say. No line
holds a line break, and every line that has a text begins with a character that can be seen.
-/

namespace Viewsmith

/-! ## Styling -/

/-- The styles of a component: the key of each node, and the style table. -/
structure Styling : Type where
  keyOf : Node → Option String
  table : List WrittenEntry

def Design.styling (options : ComponentOptions) (design : Design) : Styling :=
  { keyOf := Node.keyAmong options (design.renderedNodes options)
    table := numberedEntries options.stylePrefix (nodeSets options (design.renderedNodes options)) }

/-! ## Imports -/

/-- The names that the file of a design imports from a package, in lexicographic order. -/
def Design.importedNames (options : ComponentOptions) (design : Design) : Package → List String
  | .react => if (design.rootState.getD []).isEmpty then [] else ["useState"]
  | .reactNative =>
      let nodes := design.renderedNodes options
      (if nodes.any fun n => !(n.effectiveDeclarations options).isEmpty then ["StyleSheet"] else [])
        ++ (if nodes.any fun n => !n.kind.isContainer then ["Text"] else [])
        ++ (if nodes.any fun n => n.kind.isContainer then ["View"] else [])

def importLine (q : QuoteStyle) (package : Package) (names : List String) : Line :=
  ⟨0, "import \x7b".toList ++ (", ".intercalate names).toList ++ "\x7d from ".toList
    ++ stringLiteral q package.path.toList ++ ";".toList⟩

/-- The lines of the import statements: one for each package of which names are imported. -/
def importLines (q : QuoteStyle) (names : Package → List String) : List Line :=
  (Package.all.filter fun package => !(names package).isEmpty).map fun package =>
    importLine q package (names package)

/-- The packages have their statements in a fixed order. -/
theorem importLines_eq (q : QuoteStyle) (names : Package → List String) :
    importLines q names
      = (if names .react = [] then [] else [importLine q .react (names .react)])
        ++ (if names .reactNative = [] then []
            else [importLine q .reactNative (names .reactNative)]) := by
  cases react : names .react <;> cases native : names .reactNative <;>
    simp [importLines, Package.all, react, native]

/-! ## Component functions -/

def Design.headerLine (options : ComponentOptions) (design : Design) : Line :=
  ⟨0, options.exportStyle.keywords.toList ++ (pascalName design.root.name).toList
    ++ "() \x7b".toList⟩

def hookLine (q : QuoteStyle) (e : StateEntry) : Line :=
  ⟨1, "const [".toList ++ (getterName e.name).toList ++ ", ".toList ++ (setterName e.name).toList
    ++ "] = useState(".toList ++ e.value.written.codeText q ++ ");".toList⟩

/-- The lines of what a component returns. An empty component returns nothing. -/
def Design.returnLines (options : ComponentOptions) (q : QuoteStyle) (keyOf : Node → Option String)
    (design : Design) : List Line :=
  if design.root.isEmptyComponent options then []
  else ⟨1, "return (".toList⟩ :: ((design.root.element keyOf).lines q 2 ++ [⟨1, ");".toList⟩])

def Design.functionLines (options : ComponentOptions) (q : QuoteStyle)
    (keyOf : Node → Option String) (design : Design) : List Line :=
  design.headerLine options ::
    ((design.rootState.getD []).map (hookLine q) ++ design.returnLines options q keyOf)
    ++ [⟨0, "\x7d".toList⟩]

/-! ## Style tables -/

def declarationLine (q : QuoteStyle) (d : String × WrittenValue) : Line :=
  ⟨2, propertyText q d.1 ++ ": ".toList ++ d.2.codeText q ++ ",".toList⟩

def entryLines (q : QuoteStyle) (e : WrittenEntry) : List Line :=
  ⟨1, e.key.toList ++ ": \x7b".toList⟩ :: e.declarations.map (declarationLine q)
    ++ [⟨1, "\x7d,".toList⟩]

/-- The lines of a style table. An empty one is a plain object. -/
def tableLines (q : QuoteStyle) (table : List WrittenEntry) : List Line :=
  if table.isEmpty then [⟨0, "const styles = \x7b\x7d;".toList⟩]
  else
    ⟨0, "const styles = StyleSheet.create(\x7b".toList⟩ :: table.flatMap (entryLines q)
      ++ [⟨0, "\x7d);".toList⟩]

/-! ## Files -/

def Design.sourceLines (options : ComponentOptions) (q : QuoteStyle) (design : Design) : List Line :=
  let imports := importLines q (design.importedNames options)
  let styling := design.styling options
  (if imports = [] then [] else imports ++ [⟨0, []⟩])
    ++ design.functionLines options q styling.keyOf ++ [⟨0, []⟩] ++ tableLines q styling.table

/-! ## What styles and imports depend on -/

section

variable {options : ComponentOptions} {a b : Design}

theorem Design.any_renderedNodes_congr {f : Node → Bool}
    (same : (a.renderedNodes options).map f = (b.renderedNodes options).map f) :
    (a.renderedNodes options).any f = (b.renderedNodes options).any f := by
  have some := congrArg (List.any · id) same
  rwa [List.any_map, List.any_map, Function.id_comp] at some

/-- Designs whose nodes have the same style sets, one after the other, have the same styles. -/
theorem Design.styling_congr (sets : (a.renderedNodes options).map (Node.styleSet options)
      = (b.renderedNodes options).map (Node.styleSet options)) :
    a.styling options = b.styling options := by
  have keys : Node.keyAmong options (a.renderedNodes options)
      = Node.keyAmong options (b.renderedNodes options) := by
    funext n
    rw [Node.keyAmong, Node.keyAmong, nodeSets, nodeSets, sets]
  rw [styling, styling, keys, nodeSets, nodeSets, sets]

/-- Designs with state, or both without, import the same names if their nodes are of the same kinds and
declare something at the same places. -/
theorem Design.importedNames_congr
    (state : (a.rootState.getD []).isEmpty = (b.rootState.getD []).isEmpty)
    (declared : (a.renderedNodes options).map (fun n => !(n.effectiveDeclarations options).isEmpty)
      = (b.renderedNodes options).map fun n => !(n.effectiveDeclarations options).isEmpty)
    (kinds : (a.renderedNodes options).map (fun n => n.kind.isContainer)
      = (b.renderedNodes options).map fun n => n.kind.isContainer) :
    a.importedNames options = b.importedNames options := by
  have texts : (a.renderedNodes options).map (fun n => !n.kind.isContainer)
      = (b.renderedNodes options).map fun n => !n.kind.isContainer := by
    have negated := congrArg (List.map not) kinds
    rwa [List.map_map, List.map_map] at negated
  funext package
  cases package with
  | react => simp only [importedNames, state]
  | reactNative =>
      simp only [importedNames, any_renderedNodes_congr declared, any_renderedNodes_congr texts,
        any_renderedNodes_congr kinds]

end

/-- The lines of a file around the element of the root. -/
theorem Design.sourceLines_of_shown {options : ComponentOptions} {design : Design}
    (shown : ¬ design.root.isEmptyComponent options = true) (q : QuoteStyle) :
    design.sourceLines options q
      = ((if importLines q (design.importedNames options) = [] then []
            else importLines q (design.importedNames options) ++ [⟨0, []⟩])
          ++ design.headerLine options :: (design.rootState.getD []).map (hookLine q)
          ++ [⟨1, "return (".toList⟩])
        ++ (design.root.element (design.styling options).keyOf).lines q 2
        ++ (⟨1, ");".toList⟩ :: ⟨0, "\x7d".toList⟩ :: ⟨0, []⟩ ::
          tableLines q (design.styling options).table) := by
  rw [sourceLines, functionLines, returnLines, if_neg shown]
  simp

/-! ## What holds of all lines -/

section

variable {P : Line → Prop} {options : ComponentOptions} {q : QuoteStyle}

theorem Design.forall_mem_functionLines {keyOf : Node → Option String} {design : Design}
    (header : P (design.headerLine options)) (hooks : ∀ e, P (hookLine q e))
    (opening : P ⟨1, "return (".toList⟩)
    (inside : ∀ l ∈ (design.root.element keyOf).lines q 2, P l) (closing : P ⟨1, ");".toList⟩)
    (brace : P ⟨0, "\x7d".toList⟩) : ∀ l ∈ design.functionLines options q keyOf, P l := by
  have hooked : ∀ l ∈ (design.rootState.getD []).map (hookLine q), P l := by
    intro l hl
    obtain ⟨e, -, rfl⟩ := List.mem_map.mp hl
    exact hooks e
  have returned : ∀ l ∈ design.returnLines options q keyOf, P l := by
    rw [returnLines]
    split
    · exact List.forall_mem_nil _
    · rw [List.forall_mem_cons, List.forall_mem_append, List.forall_mem_singleton]
      exact ⟨opening, inside, closing⟩
  rw [functionLines, List.forall_mem_append, List.forall_mem_cons, List.forall_mem_append,
    List.forall_mem_singleton]
  exact ⟨⟨header, hooked, returned⟩, brace⟩

theorem forall_mem_entryLines {e : WrittenEntry} (opening : P ⟨1, e.key.toList ++ ": \x7b".toList⟩)
    (inside : ∀ d ∈ e.declarations, P (declarationLine q d)) (closing : P ⟨1, "\x7d,".toList⟩) :
    ∀ l ∈ entryLines q e, P l := by
  rw [entryLines, List.forall_mem_append, List.forall_mem_cons, List.forall_mem_singleton]
  refine ⟨⟨opening, ?_⟩, closing⟩
  intro l hl
  obtain ⟨d, hd, rfl⟩ := List.mem_map.mp hl
  exact inside d hd

theorem forall_mem_tableLines {table : List WrittenEntry}
    (empty : P ⟨0, "const styles = \x7b\x7d;".toList⟩)
    (opening : P ⟨0, "const styles = StyleSheet.create(\x7b".toList⟩)
    (inside : ∀ e ∈ table, ∀ l ∈ entryLines q e, P l) (closing : P ⟨0, "\x7d);".toList⟩) :
    ∀ l ∈ tableLines q table, P l := by
  rw [tableLines]
  split
  · rw [List.forall_mem_singleton]
    exact empty
  · rw [List.forall_mem_append, List.forall_mem_cons, List.forall_mem_singleton]
    refine ⟨⟨opening, ?_⟩, closing⟩
    intro l hl
    obtain ⟨e, he, line⟩ := List.mem_flatMap.mp hl
    exact inside e he l line

end

/-! ## How lines begin -/

theorem head?_importLine (q : QuoteStyle) (package : Package) (names : List String) :
    (importLine q package names).text.head? = some 'i' := by
  have first : "import \x7b".toList.head? = some 'i' := by decide
  simp only [importLine, List.head?_append, first, Option.some_or]

/-- The import statements and the empty line after them begin with no other letter. -/
theorem head?_of_mem_statements {q : QuoteStyle} {names : Package → List String} {c : Char}
    (other : c ≠ 'i') :
    ∀ l ∈ (if importLines q names = [] then [] else importLines q names ++ [⟨0, []⟩]),
      l.text.head? ≠ some c := by
  split
  · exact List.forall_mem_nil _
  · rw [List.forall_mem_append, List.forall_mem_singleton]
    refine ⟨?_, by simp⟩
    intro l hl
    obtain ⟨package, -, rfl⟩ := List.mem_map.mp hl
    rw [head?_importLine]
    simpa using other.symm

theorem head?_keywords (style : ExportStyle) : style.keywords.toList.head? = some 'e' := by
  cases style <;> decide

theorem Design.head?_headerLine (options : ComponentOptions) (design : Design) :
    (design.headerLine options).text.head? = some 'e' := by
  simp only [headerLine, List.head?_append, head?_keywords, Option.some_or]

theorem head?_hookLine (q : QuoteStyle) (e : StateEntry) :
    (hookLine q e).text.head? = some 'c' := by
  have first : "const [".toList.head? = some 'c' := by decide
  simp only [hookLine, List.head?_append, first, Option.some_or]

/-! ## Tokens that lines do not begin with -/

section

variable {token : List Char} {c : Char}

theorem not_prefix_of_head {text : List Char} (first : token.head? = some c)
    (other : text.head? ≠ some c) : ¬ token <+: text := by
  rintro ⟨rest, rfl⟩
  rw [List.head?_append, first] at other
  exact other rfl

/-- A text that has a colon after a key does not begin with a token that has no colon, but a character
that the key has not. -/
theorem not_prefix_of_colon {key rest : List Char} (inside : c ∈ token) (colonless : ':' ∉ token)
    (outside : c ∉ key) : ¬ token <+: key ++ ':' :: rest := by
  intro start
  have colon : key ++ [':'] <+: key ++ ':' :: rest := ⟨rest, by simp⟩
  rcases List.prefix_or_prefix_of_prefix start colon with short | long
  · rcases List.mem_append.mp (short.subset inside) with key | same
    · exact outside key
    · rw [List.mem_singleton.mp same] at inside
      exact colonless inside
  · exact colonless (long.subset (by simp))

variable (inside : c ∈ token) (colonless : ':' ∉ token) (unkeyed : continuesKey c = false)

include inside colonless unkeyed

theorem not_prefix_declarationLine {q : QuoteStyle} (unquoted : token.head? ≠ some q.char)
    (d : String × WrittenValue) : ¬ token <+: (declarationLine q d).text := by
  have colon : ": ".toList = ':' :: [' '] := by decide
  simp only [declarationLine, List.append_assoc, colon, List.cons_append]
  unfold propertyText
  split
  · rename_i plain
    refine not_prefix_of_colon inside colonless fun inKey => ?_
    rw [continuesKey_of_mem plain inKey] at unkeyed
    cases unkeyed
  · obtain ⟨first, rest, rfl⟩ := List.exists_cons_of_ne_nil (List.ne_nil_of_mem inside)
    obtain ⟨more, shape⟩ := exists_cons_stringLiteral q d.1.toList
    rw [shape]
    refine not_prefix_of_head rfl fun same => unquoted ?_
    exact same.symm

/-- A token that has a character of its own begins no line of a style table, unless the literals, the
ends of blocks or the declaration of the table begin with it. -/
theorem not_prefix_tableLines {q : QuoteStyle} (unquoted : token.head? ≠ some q.char)
    (foreign : ¬ IsIdentifierChar c ∧ c ≠ ' ')
    (fixed : ∀ text ∈ ["const styles = \x7b\x7d;", "const styles = StyleSheet.create(\x7b",
      "\x7d,", "\x7d);"], ¬ token <+: text.toList) (label : String) (sets : List WrittenStyles) :
    ∀ l ∈ tableLines q (numberedEntries label sets), ¬ token <+: l.text := by
  simp only [List.forall_mem_cons] at fixed
  obtain ⟨empty, opening, brace, closing, -⟩ := fixed
  apply forall_mem_tableLines
  · exact empty
  · exact opening
  · intro e he
    obtain ⟨number, _, rfl⟩ := List.mem_mapIdx.mp he
    apply forall_mem_entryLines
    · have colon : ": \x7b".toList = ':' :: [' ', '\x7b'] := by decide
      rw [colon]
      refine not_prefix_of_colon inside colonless fun inKey => ?_
      rcases mem_entryKey inKey with identifier | space
      · exact foreign.1 identifier
      · exact foreign.2 space
    · intro d _
      exact not_prefix_declarationLine inside colonless unkeyed unquoted d
    · exact brace
  · exact closing

end

end Viewsmith
