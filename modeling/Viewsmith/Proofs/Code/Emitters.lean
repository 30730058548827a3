import Mathlib.Data.List.Basic
import Viewsmith.Proofs.Code.Assembly
import Viewsmith.Proofs.Code.SourceLines
import Viewsmith.Proofs.Code.Walk

/-!
# Emitters write lines

Each emitter, started at the start of a line, writes the lines that its part of the file has. One
lemma for each emitter says so; the component function puts them together (`writeFunction_ok`).
-/

namespace Viewsmith

open CodeBuffer

variable {b : CodeBuffer}

/-! ## State hooks -/

theorem writeHook_eq (start : b.atLineStart = true) (level : b.level = 1) (e : StateEntry) :
    writeHook b e = b.addLines [hookLine b.options.quoteStyle e] := by
  have tokens : ∀ t ∈ ["const [".toList, (getterName e.name).toList, ", ".toList,
      (setterName e.name).toList, "] = useState(".toList,
      e.value.written.codeText b.options.quoteStyle, ");".toList], IsOneLine t := by
    simp only [List.forall_mem_cons]
    exact ⟨by decide, isOneLine_camelName _, by decide, isOneLine_camelName _,
      by decide, isOneLine_codeText_written _ _, by decide⟩
  rw [writeHook, literal_eq]
  simp only [write_eq, options_writeChars]
  exact (newline_foldl_writeChars start tokens).trans (by simp [hookLine, level])

theorem ImportSet.insert_insert (s : ImportSet) (p : Primitive) :
    (s.insert p).insert p = s.insert p := by
  simp [insert]

namespace Draft

theorem styles_writeHooks (component : String) (entries : List StateEntry) (seen : List String)
    (d : Draft) : (Draft.writeHooks component seen entries d).styles = d.styles := by
  induction entries generalizing seen d with
  | nil => rfl
  | cons e rest ih => exact ih _ _

theorem imports_writeHooks (component : String) (entries : List StateEntry) (seen : List String)
    (d : Draft) :
    (Draft.writeHooks component seen entries d).imports
      = if entries.isEmpty then d.imports else d.imports.insert .useState := by
  induction entries generalizing seen d with
  | nil => rfl
  | cons e rest ih =>
      rw [writeHooks, ih]
      show (if rest.isEmpty then d.imports.insert .useState
        else (d.imports.insert .useState).insert .useState) = d.imports.insert .useState
      rw [ImportSet.insert_insert, ite_self]

theorem styles_writeStateHooks (design : Design) (d : Draft) :
    (d.writeStateHooks design).styles = d.styles := by
  unfold writeStateHooks
  simp only
  split
  · rfl
  · split
    · rfl
    · exact styles_writeHooks ..

/-- Of the symbols, the hooks of a component mention `useState` if it has state entries, and no
other. -/
theorem imports_writeStateHooks (design : Design) (d : Draft) :
    (d.writeStateHooks design).imports
      = if (design.rootState.getD []).isEmpty then d.imports else d.imports.insert .useState := by
  unfold writeStateHooks Design.rootState
  simp only
  split
  · rename_i absent
    rw [absent]
    rfl
  · rename_i page present
    rw [present, Option.bind_some]
    split
    · rename_i absent
      rw [absent]
      rfl
    · rename_i entries present
      rw [present]
      exact imports_writeHooks ..

theorem code_writeHooks (component : String) : ∀ (entries : List StateEntry) (seen : List String)
    {d : Draft}, d.code.atLineStart = true → d.code.level = 1 →
      (Draft.writeHooks component seen entries d).code
        = d.code.addLines (entries.map (hookLine d.code.options.quoteStyle))
  | [], seen, d, _, _ => rfl
  | e :: rest, seen, d, start, level => by
      rw [writeHooks]
      generalize reported : d.reporting _ = d₁
      have code : d₁.code = d.code := by rw [← reported]; rfl
      have hook : ((d₁.writing (writeHook · e)).mentioning .useState).code
          = d.code.addLines [hookLine d.code.options.quoteStyle e] := by
        rw [← writeHook_eq start level, ← code]
        rfl
      rw [code_writeHooks component rest (e.name :: seen)
        (by rw [hook]; exact atLineStart_addLines start _) (by rw [hook]; exact level), hook]
      simp

/-- What the hooks of state entries add to a draft. -/
structure Hooked (entries : List StateEntry) (d d' : Draft) : Prop where
  code : d'.code = d.code.addLines (entries.map (hookLine d.code.options.quoteStyle))
  styles : d'.styles = d.styles
  unknown : d'.imports.unknown = d.imports.unknown
  used : ∀ p, d'.imports.used p = (!entries.isEmpty && p == .useState || d.imports.used p)

theorem hooked_writeStateHooks {design : Design} {d : Draft} (start : d.code.atLineStart = true)
    (level : d.code.level = 1) :
    Hooked (design.rootState.getD []) d (d.writeStateHooks design) := by
  have imports := imports_writeStateHooks design d
  constructor
  · unfold writeStateHooks Design.rootState
    simp only
    split
    · rename_i absent
      rw [absent]
      rfl
    · rename_i page present
      rw [present, Option.bind_some]
      split
      · rename_i absent
        rw [absent]
        rfl
      · rename_i entries present
        rw [present]
        exact code_writeHooks _ entries [] start level
  · exact styles_writeStateHooks design d
  · rw [imports]
    split <;> rfl
  · intro p
    rw [imports]
    cases (design.rootState.getD []).isEmpty <;> rfl

end Draft

/-! ## Component functions -/

theorem openBlock_eq {tokens : List (List Char)} (start : b.atLineStart = true)
    (oneLine : ∀ t ∈ tokens, IsOneLine t) :
    (tokens.foldl writeChars b).openBlock
      = b.indent.addLines [⟨b.level, tokens.flatten ++ "\x7b".toList⟩] := by
  have last : ∀ t ∈ tokens ++ ["\x7b".toList], IsOneLine t := by
    rw [List.forall_mem_append, List.forall_mem_singleton]
    exact ⟨oneLine, by decide⟩
  have line := newline_foldl_writeChars start last
  rw [List.foldl_append, List.flatten_append] at line
  rw [openBlock, ← indent_addLines]
  simpa [write_eq] using congrArg CodeBuffer.indent line

theorem isOneLine_keywords (style : ExportStyle) : IsOneLine style.keywords.toList := by
  cases style <;> decide

theorem header_eq (start : b.atLineStart = true) (level : b.level = 0) (options : ComponentOptions)
    (design : Design) :
    (b.write options.exportStyle.keywords |>.write (pascalName design.root.name)
        |>.write "() ").openBlock
      = b.indent.addLines [design.headerLine options] := by
  have tokens : ∀ t ∈ [options.exportStyle.keywords.toList, (pascalName design.root.name).toList,
      "() ".toList], IsOneLine t := by
    simp only [List.forall_mem_cons]
    exact ⟨isOneLine_keywords _, isOneLine_pascalName _, by decide⟩
  have brace : "() \x7b".toList = "() ".toList ++ "\x7b".toList := by decide
  have opened := openBlock_eq start tokens
  simp only [List.foldl_cons, List.foldl_nil] at opened
  rw [write_eq, write_eq, write_eq, opened, Design.headerLine, level, brace]
  simp

namespace Draft

/-- What a draft holds when the hooks of a component have been written. -/
structure Opened (settings : Settings) (design : Design) (d : Draft) : Prop where
  code : d.code = (CodeBuffer.new settings.writer).indent.addLines
    (design.headerLine settings.component ::
      (design.rootState.getD []).map (hookLine settings.writer.quoteStyle))
  styles : d.styles.Lists settings.component.stylePrefix (nodeSets settings.component [])
  unknown : d.imports.unknown = []
  used : ∀ p, d.imports.used p = (!(design.rootState.getD []).isEmpty && p == .useState)

theorem opened_writeStateHooks (settings : Settings) (design : Design) (events : List LogEvent) :
    Opened settings design ((((Draft.new settings).reporting events).writing fun b =>
      (b.write settings.component.exportStyle.keywords |>.write (pascalName design.root.name)
        |>.write "() ").openBlock).writeStateHooks design) := by
  generalize header : ((Draft.new settings).reporting events).writing _ = d
  have code : d.code
      = (CodeBuffer.new settings.writer).indent.addLines [design.headerLine settings.component] := by
    rw [← header]
    exact header_eq rfl rfl settings.component design
  have hooked : Hooked (design.rootState.getD []) d (d.writeStateHooks design) :=
    hooked_writeStateHooks (by rw [code]; exact atLineStart_addLines rfl _) (by rw [code]; rfl)
  constructor
  · rw [hooked.code, code, addLines_addLines]
    rfl
  · rw [hooked.styles, ← header]
    exact StyleTable.Lists.new _
  · rw [hooked.unknown, ← header]
    rfl
  · intro p
    rw [hooked.used, ← header]
    exact Bool.or_false _

/-- What the draft of a finished component holds: all lines of the function, the last one still
open, the styles of the rendered nodes and the symbols that are mentioned. -/
structure Component (settings : Settings) (design : Design) (d : Draft) : Prop where
  code : d.code = ((CodeBuffer.new settings.writer).addLines
    (design.headerLine settings.component ::
      ((design.rootState.getD []).map (hookLine settings.writer.quoteStyle)
        ++ design.returnLines settings.component settings.writer.quoteStyle
          (design.styling settings.component).keyOf))).writeChars "\x7d".toList
  styles : d.styles.Lists settings.component.stylePrefix
    (nodeSets settings.component (design.renderedNodes settings.component))
  unknown : d.imports.unknown = []
  used : ∀ p, d.imports.used p = (!(design.rootState.getD []).isEmpty && p == .useState
    || (design.renderedNodes settings.component).any fun n => n.primitive == p)
  valid : (design.renderedNodes settings.component).findSome?
    (Node.invalidStyle? settings.component) = none

theorem code_closeBlock {o : WriterOptions} {d : Draft} {lines : List Line}
    (code : d.code = (CodeBuffer.new o).indent.addLines lines) :
    (d.writing closeBlock).code
      = ((CodeBuffer.new o).addLines lines).writeChars "\x7d".toList := by
  have start : d.code.atLineStart = true := by
    rw [code]
    exact atLineStart_addLines rfl lines
  rw [code_writing, closeBlock_of_atLineStart start, code, dedent_addLines, dedent_indent]
  rfl

/-- The lines that a component returns are written around those of its root's element. -/
theorem code_return {settings : Settings} {design : Design} {d d' : Draft}
    (shown : ¬ design.root.isEmptyComponent settings.component = true)
    (start : d.code.atLineStart = true) (level : d.code.level = 1)
    (options : d.code.options = settings.writer)
    (lists : d.styles.Lists settings.component.stylePrefix (nodeSets settings.component []))
    (h : (d.writing fun b => (b.write "return (").newline.indent).writeNode settings.component
      design.root = .ok d') :
    (d'.writing fun b => (b.dedent.write ");").newline).code
      = d.code.addLines (design.returnLines settings.component settings.writer.quoteStyle
          (design.styling settings.component).keyOf) := by
  have opened : (d.writing fun b => (b.write "return (").newline.indent).code
      = d.code.indent.addLines [⟨1, "return (".toList⟩] := by
    rw [code_writing, write_eq, newline_writeChars start, level, indent_addLines]
  have started (lines : List Line) : (d.code.indent.addLines lines).atLineStart = true :=
    atLineStart_addLines start lines
  have inside := code_writeNode design.root h
    (by rw [opened]; exact started _) lists
    (show design.renderedNodes settings.component = [] ++ design.root.rendered ++ [] by
      rw [Design.renderedNodes, if_neg shown, List.nil_append, List.append_nil])
  rw [opened, addLines_addLines] at inside
  rw [code_writing, inside, dedent_addLines, dedent_indent, write_eq,
    newline_writeChars (atLineStart_addLines start _), addLines_addLines, Design.returnLines,
    if_neg shown]
  simp [level, options, Design.styling]

theorem Opened.component_of_empty {settings : Settings} {design : Design} {d : Draft}
    (opened : d.Opened settings design)
    (empty : design.root.isEmptyComponent settings.component = true) (events : List LogEvent) :
    ((d.reporting events).writing closeBlock).Component settings design := by
  constructor
  · rw [Design.returnLines, if_pos empty, List.append_nil]
    exact code_closeBlock opened.code
  · rw [Design.renderedNodes, if_pos empty]
    exact opened.styles
  · exact opened.unknown
  · intro p
    rw [Design.renderedNodes, if_pos empty]
    exact (opened.used p).trans (Bool.or_false _).symm
  · rw [Design.renderedNodes, if_pos empty]
    rfl

theorem Opened.component_of_shown {settings : Settings} {design : Design} {d d' : Draft}
    (opened : d.Opened settings design)
    (shown : ¬ design.root.isEmptyComponent settings.component = true)
    (walk : (d.writing fun b => (b.write "return (").newline.indent).writeNode settings.component
      design.root = .ok d') :
    ((d'.writing fun b => (b.dedent.write ");").newline).writing closeBlock).Component settings
      design := by
  have nodes : design.renderedNodes settings.component = design.root.rendered := by
    rw [Design.renderedNodes, if_neg shown]
  have visits := notes_of_writeNode walk
  have returned := code_return shown (by rw [opened.code]; exact atLineStart_addLines rfl _)
    (by rw [opened.code]; rfl) (by rw [opened.code]; rfl) opened.styles walk
  rw [opened.code, addLines_addLines] at returned
  obtain ⟨unknown, used⟩ := Notes.visits_imports visits
  constructor
  · exact code_closeBlock returned
  · rw [nodes]
    exact Notes.visits_lists opened.styles visits
  · exact unknown.trans opened.unknown
  · intro p
    rw [nodes, ← opened.used p]
    exact used p
  · rw [nodes]
    exact Notes.valid_of_visits visits

theorem component_of_writeFunction {settings : Settings} {design : Design} {events : List LogEvent}
    {d : Draft}
    (h : ((Draft.new settings).reporting events).writeFunction settings.component design = .ok d) :
    d.Component settings design := by
  have opened := opened_writeStateHooks settings design events
  rw [writeFunction] at h
  simp only at h
  generalize (((Draft.new settings).reporting events).writing _).writeStateHooks design = d₁
    at h opened
  by_cases empty : design.root.isEmptyComponent settings.component = true
  · rw [if_pos empty] at h
    rw [← Except.ok.inj h]
    exact opened.component_of_empty empty _
  · rw [if_neg empty] at h
    cases walk : (d₁.writing fun b => (b.write "return (").newline.indent).writeNode
        settings.component design.root with
    | error failure =>
        rw [walk] at h
        cases h
    | ok d₂ =>
        rw [walk] at h
        rw [← Except.ok.inj h]
        exact opened.component_of_shown empty walk

/-- Where a component cannot be written its root is shown, and the walk through the root fails in the
same way, on a draft that has the hooks and otherwise differs from the first one in its text alone. -/
theorem walk_of_writeFunction {options : ComponentOptions} {design : Design} {d : Draft}
    {failure : EmitFailure} (h : d.writeFunction options design = .error failure) :
    ¬ design.root.isEmptyComponent options = true ∧ ∃ header opening : CodeBuffer → CodeBuffer,
      (((d.writing header).writeStateHooks design).writing opening).writeNode options design.root
        = .error failure := by
  rw [writeFunction] at h
  simp only at h
  by_cases empty : design.root.isEmptyComponent options = true
  · rw [if_pos empty] at h
    cases h
  · rw [if_neg empty] at h
    generalize shape : ((d.writing _).writeStateHooks design).writing (fun b =>
      (b.write "return (").newline.indent) = inside at h
    cases walk : inside.writeNode options design.root with
    | ok d' =>
        rw [walk] at h
        cases h
    | error stopped =>
        rw [walk] at h
        have same : stopped = failure := Except.error.inj h
        rw [← shape, same] at walk
        exact ⟨empty, _, _, walk⟩

/-- Writing a component fails on the first rendered node with invalid declarations. -/
theorem invalidStyle_of_writeFunction {options : ComponentOptions} {design : Design} {d : Draft}
    {failure : EmitFailure} (h : d.writeFunction options design = .error failure) :
    (design.renderedNodes options).findSome? (Node.invalidStyle? options) = some failure.error := by
  obtain ⟨shown, header, opening, walk⟩ := walk_of_writeFunction h
  rw [Design.renderedNodes, if_neg shown]
  exact invalidStyle_of_writeNode walk

end Draft

/-! ## Style tables -/

theorem writeDeclaration_eq (start : b.atLineStart = true) (level : b.level = 2)
    (d : String × Literal) :
    writeDeclaration b d = b.addLines [declarationLine b.options.quoteStyle (d.1, d.2.written)] := by
  have tokens : ∀ t ∈ [propertyText b.options.quoteStyle d.1, ": ".toList,
      d.2.written.codeText b.options.quoteStyle, ",".toList], IsOneLine t := by
    simp only [List.forall_mem_cons]
    exact ⟨isOneLine_propertyText _ _, by decide, isOneLine_codeText_written _ _,
      by decide⟩
  have line := newline_foldl_writeChars start tokens
  simp only [List.foldl_cons, List.foldl_nil] at line
  rw [writeDeclaration, literal_eq, writeKey_eq, write_eq, write_eq, options_writeChars,
    options_writeChars, line, declarationLine, level]
  simp

theorem foldl_writeDeclaration : ∀ (ds : List (String × Literal)) {b : CodeBuffer},
    b.atLineStart = true → b.level = 2 →
      ds.foldl writeDeclaration b
        = b.addLines ((written ds).map (declarationLine b.options.quoteStyle))
  | [], b, _, _ => rfl
  | d :: rest, b, start, level => by
      rw [List.foldl_cons, writeDeclaration_eq start level,
        foldl_writeDeclaration rest (atLineStart_addLines start _) level, addLines_addLines]
      rfl

theorem writeStyleEntry_eq (start : b.atLineStart = true) (level : b.level = 1) (e : StyleEntry)
    (key : IsOneLine e.key.toList) :
    writeStyleEntry b e = b.addLines (entryLines b.options.quoteStyle e.written) := by
  have tokens : ∀ t ∈ [e.key.toList, ": ".toList], IsOneLine t := by
    simp only [List.forall_mem_cons]
    exact ⟨key, by decide⟩
  have opened := openBlock_eq start tokens
  simp only [List.foldl_cons, List.foldl_nil] at opened
  have started (lines : List Line) : (b.indent.addLines lines).atLineStart = true :=
    atLineStart_addLines start lines
  have brace : IsOneLine ['\x7d'] := by decide
  simp only [writeStyleEntry, write_eq]
  rw [opened, foldl_writeDeclaration _ (started _) (by rw [level_addLines, level_indent, level]),
    addLines_addLines, closeBlock_of_atLineStart (started _), dedent_addLines, dedent_indent,
    writeChars_writeChars brace, newline_writeChars (atLineStart_addLines start _), addLines_addLines,
    entryLines]
  have keyLine : ": \x7b".toList = ": ".toList ++ "\x7b".toList := by decide
  have comma : "\x7d,".toList = '\x7d' :: ",".toList := by decide
  simp [StyleEntry.written, level, keyLine, comma]

theorem foldl_writeStyleEntry : ∀ (entries : List StyleEntry) {b : CodeBuffer},
    b.atLineStart = true → b.level = 1 → (∀ e ∈ entries, IsOneLine e.key.toList) →
      entries.foldl writeStyleEntry b
        = b.addLines ((entries.map StyleEntry.written).flatMap (entryLines b.options.quoteStyle))
  | [], b, _, _, _ => rfl
  | e :: rest, b, start, level, keys => by
      rw [List.foldl_cons, writeStyleEntry_eq start level e (keys e List.mem_cons_self),
        foldl_writeStyleEntry rest (atLineStart_addLines start _) level
          (fun e he => keys e (List.mem_cons_of_mem _ he)), addLines_addLines]
      rfl

/-- A part of a file: all its lines, the last one without its end. -/
structure WritesOpen (o : WriterOptions) (lines : List Line) (b : CodeBuffer) : Prop where
  parts : ∃ front last, lines = front ++ [⟨0, last⟩] ∧ last ≠ [] ∧ IsOneLine last ∧
    b = ((CodeBuffer.new o).addLines front).writeChars last

theorem StyleTable.Lists.isEmpty {t : StyleTable} {label : String} {sets : List WrittenStyles}
    (lists : t.Lists label sets) : t.isEmpty = (numberedEntries label sets).isEmpty := by
  rw [← lists.entries, List.isEmpty_map, StyleTable.entries, List.isEmpty_map]
  rfl

/-- The entries have numbered keys. -/
theorem StyleTable.Lists.exists_entryKey {t : StyleTable} {label : String} {sets : List WrittenStyles}
    (lists : t.Lists label sets) : ∀ e ∈ t.entries, ∃ i, e.key = entryKey label i := by
  intro e he
  have listed : e.written ∈ numberedEntries label sets := by
    rw [← lists.entries]
    exact List.mem_map_of_mem he
  obtain ⟨i, _, numbered⟩ := List.mem_mapIdx.mp listed
  exact ⟨i, congrArg WrittenEntry.key numbered.symm⟩

theorem StyleTable.Lists.isOneLine_key {t : StyleTable} {label : String} {sets : List WrittenStyles}
    (lists : t.Lists label sets) : ∀ e ∈ t.entries, IsOneLine e.key.toList := by
  intro e he
  obtain ⟨i, key⟩ := lists.exists_entryKey e he
  rw [key]
  exact isOneLine_entryKey label i

theorem writeSheet_of_empty {t : StyleTable} (empty : t.isEmpty = true) (o : WriterOptions)
    (imports : ImportSet) :
    (t.writeSheet (.new o) imports).1
      = (CodeBuffer.new o).writeChars "const styles = \x7b\x7d;".toList := by
  have tokens : ∀ t ∈ ["const ".toList, stylesName.toList, " = ".toList, "\x7b\x7d;".toList],
      IsOneLine t := by
    decide
  have line := foldl_writeChars (b := CodeBuffer.new o) tokens
  have text : ["const ".toList, stylesName.toList, " = ".toList, "\x7b\x7d;".toList].flatten
      = "const styles = \x7b\x7d;".toList := by
    decide
  simp only [List.foldl_cons, List.foldl_nil, text] at line
  rw [StyleTable.writeSheet, empty, if_pos rfl, ← line]
  rfl

theorem writeSheet_of_entries {t : StyleTable} {label : String} {sets : List WrittenStyles}
    (lists : t.Lists label sets) (used : t.isEmpty = false) (o : WriterOptions)
    (imports : ImportSet) :
    (t.writeSheet (.new o) imports).1
      = ((CodeBuffer.new o).addLines (⟨0, "const styles = StyleSheet.create(\x7b".toList⟩ ::
          (numberedEntries label sets).flatMap (entryLines o.quoteStyle))).writeChars
            "\x7d);".toList := by
  have start : (CodeBuffer.new o).atLineStart = true := rfl
  have started (lines : List Line) :
      ((CodeBuffer.new o).indent.addLines lines).atLineStart = true := atLineStart_addLines rfl lines
  have tokens : ∀ t ∈ ["const ".toList, stylesName.toList, " = ".toList,
      "StyleSheet.create(".toList], IsOneLine t := by
    decide
  have opened := openBlock_eq start tokens
  have text : ["const ".toList, stylesName.toList, " = ".toList, "StyleSheet.create(".toList].flatten
      ++ "\x7b".toList = "const styles = StyleSheet.create(\x7b".toList := by
    decide
  have brace : IsOneLine ['\x7d'] := by decide
  have close : ['\x7d'] ++ ");".toList = "\x7d);".toList := by decide
  simp only [List.foldl_cons, List.foldl_nil, text] at opened
  rw [StyleTable.writeSheet, used, if_neg Bool.false_ne_true]
  simp only [write_eq]
  rw [opened, foldl_writeStyleEntry _ (started _) rfl lists.isOneLine_key, lists.entries,
    addLines_addLines, closeBlock_of_atLineStart (started _), dedent_addLines, dedent_indent,
    writeChars_writeChars brace, close]
  rfl

theorem writeSheet_eq {t : StyleTable} {label : String} {sets : List WrittenStyles}
    (lists : t.Lists label sets) (o : WriterOptions) (imports : ImportSet) :
    WritesOpen o (tableLines o.quoteStyle (numberedEntries label sets))
      (t.writeSheet (.new o) imports).1 := by
  rw [tableLines, ← lists.isEmpty]
  split
  · rename_i empty
    refine ⟨[], "const styles = \x7b\x7d;".toList, rfl, by decide, by decide, ?_⟩
    exact writeSheet_of_empty empty o imports
  · rename_i used
    refine ⟨_, "\x7d);".toList, rfl, by decide, by decide, ?_⟩
    exact writeSheet_of_entries lists (Bool.eq_false_iff.mpr used) o imports

/-! ## Import statements -/

namespace ImportSet

theorem symbols_eq (s : ImportSet) (p : Package) :
    s.symbols p = sortByKey id
      (((Primitive.all.filter fun q => q.package = p).filter s.used).map Primitive.symbol) := by
  rw [symbols, toList, List.filter_comm]

theorem symbols_react (s : ImportSet) :
    s.symbols .react = if s.used .useState then ["useState"] else [] := by
  have primitives : (Primitive.all.filter fun q => q.package = .react) = [.useState] := by decide
  rw [symbols_eq, primitives]
  cases state : s.used .useState with
  | false => simp [state, sortByKey]
  | true => simp [state, sortByKey, insertByKey, Primitive.symbol]

/-- The symbols of the component library are in lexicographic order. -/
theorem symbols_reactNative (s : ImportSet) :
    s.symbols .reactNative = (if s.used .styleSheet then ["StyleSheet"] else [])
      ++ (if s.used .text then ["Text"] else []) ++ (if s.used .view then ["View"] else []) := by
  have primitives : (Primitive.all.filter fun q => q.package = .reactNative)
      = [.view, .text, .styleSheet] := by decide
  rw [symbols_eq, primitives]
  cases sheet : s.used .styleSheet <;> cases text : s.used .text <;> cases view : s.used .view <;>
    simp only [List.filter_cons, List.filter_nil, sheet, text, view, Bool.false_eq_true, if_true,
      if_false] <;>
    decide

theorem isOneLine_symbols (s : ImportSet) (p : Package) :
    IsOneLine (", ".intercalate (s.symbols p)).toList := by
  cases p with
  | react =>
      rw [symbols_react]
      split_ifs <;> decide
  | reactNative =>
      rw [symbols_reactNative]
      split_ifs <;> decide

theorem writePackage_eq (s : ImportSet) (start : b.atLineStart = true) (level : b.level = 0)
    (p : Package) :
    s.writePackage b p = b.addLines
      (if (s.symbols p).isEmpty then [] else [importLine b.options.quoteStyle p (s.symbols p)]) := by
  have tokens : ∀ t ∈ ["import \x7b".toList, (", ".intercalate (s.symbols p)).toList,
      "\x7d from ".toList, stringLiteral b.options.quoteStyle p.path.toList, ";".toList],
        IsOneLine t := by
    simp only [List.forall_mem_cons]
    exact ⟨by decide, isOneLine_symbols s p, by decide, isOneLine_stringLiteral _ _,
      by decide⟩
  have line := newline_foldl_writeChars start tokens
  simp only [List.foldl_cons, List.foldl_nil] at line
  unfold writePackage
  split
  · rename_i unused
    rw [unused]
    rfl
  · rename_i used
    have nonempty : (s.symbols p).isEmpty = false := by
      rw [List.isEmpty_eq_false_iff]
      exact used
    simp only [write_eq, quote_eq, options_writeChars]
    rw [line, nonempty, if_neg Bool.false_ne_true, importLine, level]
    simp

/-- The statements are added to what a buffer holds, if it is at the start of an outermost line. -/
theorem writeStatements_addLines {s : ImportSet} (known : s.unknown = [])
    (start : b.atLineStart = true) (level : b.level = 0) :
    s.writeStatements b = .ok (b.addLines (importLines b.options.quoteStyle s.symbols)) := by
  rw [writeStatements, known]
  simp only [Package.all, List.foldl_cons, List.foldl_nil]
  rw [writePackage_eq s start level, writePackage_eq s (atLineStart_addLines start _) level,
    addLines_addLines, importLines]
  apply congrArg fun lines => Except.ok (b.addLines lines)
  cases react : (s.symbols .react).isEmpty <;> cases native : (s.symbols .reactNative).isEmpty <;>
    simp [Package.all, react, native]

theorem writeStatements_eq {s : ImportSet} (known : s.unknown = []) (o : WriterOptions) :
    s.writeStatements (.new o)
      = .ok ((CodeBuffer.new o).addLines (importLines o.quoteStyle s.symbols)) :=
  writeStatements_addLines known rfl rfl

end ImportSet

end Viewsmith
