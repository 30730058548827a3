import Mathlib.Data.List.Basic
import Viewsmith.Proofs.Code.Emitters

/-!
# The lines of generated code

A generated file is the lines of its design, laid out, and it is generated unless the declarations
of a rendered node are invalid (`result_generate`). So the settings of the writer decide how the
lines are laid out and nothing else.
-/

namespace Viewsmith

/-! ## Symbols -/

theorem Node.primitive_beq (n : Node) :
    (n.primitive == .view) = n.kind.isContainer ∧ (n.primitive == .text) = !n.kind.isContainer ∧
      (n.primitive == .useState) = false ∧ (n.primitive == .styleSheet) = false := by
  rw [primitive]
  cases n.kind.isContainer <;> decide

theorem isEmpty_nodeSets (options : ComponentOptions) (nodes : List Node) :
    (nodeSets options nodes).isEmpty
      = !nodes.any fun n => !(n.effectiveDeclarations options).isEmpty := by
  rw [Bool.eq_iff_iff, List.isEmpty_iff, List.eq_nil_iff_forall_not_mem, Bool.not_eq_true',
    List.any_eq_false]
  constructor
  · intro none n hn declared
    refine none (n.styleSet options) (mem_styleSets.mpr ⟨List.mem_map_of_mem hn, ?_⟩)
    intro empty
    rw [Node.styleSet_eq_nil] at empty
    simp [empty] at declared
  · intro bare s hs
    obtain ⟨listed, nonempty⟩ := mem_styleSets.mp hs
    obtain ⟨n, hn, rfl⟩ := List.mem_map.mp listed
    have declared : n.effectiveDeclarations options ≠ [] := mt Node.styleSet_eq_nil.mpr nonempty
    exact bare n hn (by simpa using declared)

theorem used_writeSheet (t : StyleTable) (b : CodeBuffer) (imports : ImportSet) (p : Primitive) :
    (t.writeSheet b imports).2.used p = (!t.isEmpty && p == .styleSheet || imports.used p) := by
  unfold StyleTable.writeSheet
  cases t.isEmpty <;> rfl

theorem unknown_writeSheet (t : StyleTable) (b : CodeBuffer) (imports : ImportSet) :
    (t.writeSheet b imports).2.unknown = imports.unknown := by
  unfold StyleTable.writeSheet
  cases t.isEmpty <;> rfl

/-- The symbols that are noted when a file is written are the ones that its design uses. -/
theorem Draft.Component.symbols {settings : Settings} {design : Design} {d : Draft}
    (component : d.Component settings design) (b : CodeBuffer) :
    (d.styles.writeSheet b d.imports).2.symbols = design.importedNames settings.component := by
  have views : ((design.renderedNodes settings.component).any fun n => n.primitive == .view)
      = (design.renderedNodes settings.component).any fun n => n.kind.isContainer := by
    simp only [(Node.primitive_beq _).1]
  have texts : ((design.renderedNodes settings.component).any fun n => n.primitive == .text)
      = (design.renderedNodes settings.component).any fun n => !n.kind.isContainer := by
    simp only [(Node.primitive_beq _).2.1]
  have states : ((design.renderedNodes settings.component).any fun n => n.primitive == .useState)
      = false := by
    simp [(Node.primitive_beq _).2.2.1]
  have sheets : ((design.renderedNodes settings.component).any fun n => n.primitive == .styleSheet)
      = false := by
    simp [(Node.primitive_beq _).2.2.2]
  have empty : d.styles.isEmpty = !(design.renderedNodes settings.component).any fun n =>
      !(n.effectiveDeclarations settings.component).isEmpty := by
    rw [component.styles.isEmpty, ← isEmpty_nodeSets, isEmpty_numberedEntries]
  funext p
  cases p with
  | react =>
      rw [ImportSet.symbols_react, used_writeSheet, component.used, states]
      cases state : (design.rootState.getD []).isEmpty <;> simp [Design.importedNames, state]
  | reactNative =>
      rw [ImportSet.symbols_reactNative, used_writeSheet, used_writeSheet, used_writeSheet,
        component.used, component.used, component.used, views, texts, sheets, empty]
      simp [Design.importedNames]

/-! ## Texts of import lines -/

theorem importLine_texts (q : QuoteStyle) (s : ImportSet) :
    ∀ l ∈ importLines q s.symbols, l.text ≠ [] ∧ IsOneLine l.text := by
  intro l hl
  obtain ⟨p, -, rfl⟩ := List.mem_map.mp hl
  constructor
  · rw [importLine]
    simp
  · simp only [importLine, isOneLine_append]
    exact ⟨⟨⟨⟨by decide, s.isOneLine_symbols p⟩, by decide⟩,
      isOneLine_stringLiteral _ _⟩, by decide⟩

/-! ## Files -/

/-- A finished component becomes the laid out lines of its design. -/
theorem finish_eq {settings : Settings} {design : Design} {d : Draft}
    (component : d.Component settings design) :
    ∃ primitives, d.finish settings = .ok (String.ofList (layOutLines settings.writer
      (design.sourceLines settings.component settings.writer.quoteStyle)), primitives) := by
  have known : (d.styles.writeSheet (.new settings.writer) d.imports).2.unknown = [] := by
    rw [unknown_writeSheet, component.unknown]
  have statements := ImportSet.writeStatements_eq known settings.writer
  have texts := importLine_texts settings.writer.quoteStyle
    (d.styles.writeSheet (.new settings.writer) d.imports).2
  obtain ⟨front, last, lines, nonempty, oneLine, sheet⟩ :=
    (writeSheet_eq component.styles settings.writer d.imports).parts
  refine ⟨(d.styles.writeSheet (.new settings.writer) d.imports).2.size, ?_⟩
  rw [component.symbols] at statements texts
  rw [Draft.finish]
  simp only [statements]
  rw [component.code, sheet, assemble_eq settings.writer texts _ _ (by decide)
    (by decide) nonempty oneLine, ← lines]
  rfl

/-- A file is generated unless a rendered node has invalid declarations, and then it is the laid out
lines of its design. -/
theorem result_generate (settings : Settings) (design : Design) :
    (generate settings design).result =
      match (design.renderedNodes settings.component).findSome?
          (Node.invalidStyle? settings.component) with
      | some e => .error (.invalidStyle e)
      | none => .ok (String.ofList (layOutLines settings.writer
          (design.sourceLines settings.component settings.writer.quoteStyle))) := by
  rw [generate]
  cases written : ((Draft.new settings).reporting (StyleTable.newEvents
      settings.component.stylePrefix)).writeFunction settings.component design with
  | error failure =>
      rw [Draft.invalidStyle_of_writeFunction written]
  | ok d =>
      have component := Draft.component_of_writeFunction written
      obtain ⟨primitives, finished⟩ := finish_eq component
      rw [component.valid]
      simp only [finished]

theorem result_of_valid (settings : Settings) (design : Design)
    (valid : (design.renderedNodes settings.component).findSome?
      (Node.invalidStyle? settings.component) = none) :
    (generate settings design).result = .ok (String.ofList (layOutLines settings.writer
      (design.sourceLines settings.component settings.writer.quoteStyle))) := by
  rw [result_generate, valid]

theorem valid_of_generate {settings : Settings} {design : Design} {code : String}
    (h : (generate settings design).result = .ok code) :
    (design.renderedNodes settings.component).findSome? (Node.invalidStyle? settings.component)
      = none := by
  rw [result_generate] at h
  split at h
  · cases h
  · assumption

theorem code_of_generate {settings : Settings} {design : Design} {code : String}
    (h : (generate settings design).result = .ok code) :
    code = String.ofList (layOutLines settings.writer
      (design.sourceLines settings.component settings.writer.quoteStyle)) := by
  rw [result_generate] at h
  split at h
  · cases h
  · exact (Except.ok.inj h).symm

/-! ## A card -/

/-- A card with a state entry, around a title, a row and a line. -/
def cardDesign : Design :=
  let title := ((Node.new .text "title").withCharacters "It's <Text>").withStyle "color" (.text "red")
  let row := (Node.new .frame "buttons").withLayout .horizontal
  let card := ((Node.new .component "card").onPage "home").withStyle "flexDirection" (.text "row")
  (Design.new (((card.withChild title).withChild row).withChild (Node.new .rectangle "line"))).withState
    "home" "card" ⟨"open", .text "no"⟩

def cardLines : List Line :=
  [ ⟨0, "import \x7buseState\x7d from 'react';".toList⟩,
    ⟨0, "import \x7bStyleSheet, Text, View\x7d from 'react-native';".toList⟩,
    ⟨0, []⟩,
    ⟨0, "export function Card() \x7b".toList⟩,
    ⟨1, "const [open, setOpen] = useState('no');".toList⟩,
    ⟨1, "return (".toList⟩,
    ⟨2, "<View style=\x7bstyles.style_0\x7d>".toList⟩,
    ⟨3, "<Text style=\x7bstyles.style_1\x7d>\x7b'It\\'s <Text>'\x7d</Text>".toList⟩,
    ⟨3, "<View style=\x7bstyles.style_0\x7d />".toList⟩,
    ⟨3, "<View />".toList⟩,
    ⟨2, "</View>".toList⟩,
    ⟨1, ");".toList⟩,
    ⟨0, "\x7d".toList⟩,
    ⟨0, []⟩,
    ⟨0, "const styles = StyleSheet.create(\x7b".toList⟩,
    ⟨1, "style_0: \x7b".toList⟩,
    ⟨2, "flexDirection: 'row',".toList⟩,
    ⟨1, "\x7d,".toList⟩,
    ⟨1, "style_1: \x7b".toList⟩,
    ⟨2, "color: 'red',".toList⟩,
    ⟨1, "\x7d,".toList⟩,
    ⟨0, "\x7d);".toList⟩ ]

theorem sourceLines_card : cardDesign.sourceLines {} .single = cardLines := by decide +kernel

theorem generate_card :
    (generate {} cardDesign).result = .ok (String.ofList (layOutLines {} cardLines)) := by
  have valid : (cardDesign.renderedNodes {}).findSome? (Node.invalidStyle? {}) = none := by
    decide
  rw [← sourceLines_card]
  exact result_of_valid {} cardDesign valid

end Viewsmith
