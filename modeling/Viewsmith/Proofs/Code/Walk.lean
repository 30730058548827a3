import Mathlib.Data.List.Basic
import Viewsmith.Proofs.Code.Elements

/-!
# The walk through a tree

Beside the code, a walk notes the symbols that it mentions, the style table and the events. What it
notes is what visiting the rendered nodes one after the other notes, also when the walk fails
(`notes_writeNode`). The code of a walk that succeeds is the lines of the node's element, with the
keys of the table that all visits together lead to (`code_writeNode`).
-/

namespace Viewsmith

/-- What a walk notes beside the code. -/
structure Notes : Type where
  imports : ImportSet
  styles : StyleTable
  log : List LogEvent

def Draft.notes (d : Draft) : Notes := ⟨d.imports, d.styles, d.log⟩

/-- The notes of a walk, or where it stopped. -/
def walkNotes : Except EmitFailure Draft → Except (InvalidStyle × Notes) Notes
  | .ok d => .ok d.notes
  | .error failure => .error (failure.error, failure.draft.notes)

def Node.primitive (n : Node) : Primitive := if n.kind.isContainer then .view else .text

/-- The events of a node with an element: the element, and the children that a text drops. -/
def Node.events (n : Node) : List LogEvent :=
  .element n.name n.kind n.layoutClass ::
    if n.kind.isContainer || n.children.isEmpty then [] else [.ignoredChildren n.name]

/-- What is wrong with the effective declarations of a node: the first fault in the order of their
properties. -/
def Node.invalidStyle? (options : ComponentOptions) (n : Node) : Option InvalidStyle :=
  (firstFault? (sortDeclarations (n.effectiveStyles options).entries)).map fun fault =>
    ⟨n.name, fault.1, fault.2⟩

/-- Visits a node: its declarations are registered and its element is noted. -/
def Notes.visit (options : ComponentOptions) (s : Notes) (n : Node) :
    Except (InvalidStyle × Notes) Notes :=
  match s.styles.register n.name (n.effectiveStyles options) with
  | .error failure => .error (failure, { s with styles := failure.table })
  | .ok r =>
      .ok
        { imports := s.imports.insert n.primitive
          styles := r.table
          log := s.log ++ r.events ++ n.events }

namespace Draft

variable {options : ComponentOptions} {d : Draft} {n : Node} {r : StyleTable.Registration}

@[simp]
theorem notes_writing (d : Draft) (f : CodeBuffer → CodeBuffer) :
    (d.writing f).notes = d.notes := rfl

@[simp]
theorem code_writing (d : Draft) (f : CodeBuffer → CodeBuffer) : (d.writing f).code = f d.code := rfl

@[simp]
theorem styles_writing (d : Draft) (f : CodeBuffer → CodeBuffer) :
    (d.writing f).styles = d.styles := rfl

@[simp]
theorem imports_writing (d : Draft) (f : CodeBuffer → CodeBuffer) :
    (d.writing f).imports = d.imports := rfl

@[simp]
theorem log_writing (d : Draft) (f : CodeBuffer → CodeBuffer) : (d.writing f).log = d.log := rfl

/-! ## One node -/

/-- The draft after a visit that registered the declarations of a node. -/
def entering (n : Node) (r : StyleTable.Registration) (d : Draft) : Draft :=
  { d with
    imports := d.imports.insert n.primitive
    styles := r.table
    log := d.log ++ r.events ++ n.events }

@[simp]
theorem code_entering (n : Node) (r : StyleTable.Registration) (d : Draft) :
    (d.entering n r).code = d.code := rfl

theorem visit_of_register (registered : d.styles.register n.name (n.effectiveStyles options) = .ok r) :
    d.notes.visit options n = .ok (d.entering n r).notes := by
  rw [Notes.visit, notes, registered]
  rfl

theorem visit_of_error {failure : StyleTable.RegistrationFailure}
    (refused : d.styles.register n.name (n.effectiveStyles options) = .error failure) :
    d.notes.visit options n
      = .error (failure, { d with styles := failure.table : Draft }.notes) := by
  rw [Notes.visit, notes, refused]
  rfl

theorem writeNode_of_error {failure : StyleTable.RegistrationFailure}
    (refused : d.styles.register n.name (n.effectiveStyles options) = .error failure) :
    d.writeNode options n = .error ⟨failure, { d with styles := failure.table }⟩ := by
  cases n
  rw [writeNode, beginElement, refused]
  rfl

theorem writeNode_of_text (registered : d.styles.register n.name (n.effectiveStyles options) = .ok r)
    (text : n.kind.isContainer = false) :
    d.writeNode options n = .ok ((d.entering n r).writing fun b =>
      ((writeStyleAttribute r.key (b.write "<Text") |>.write ">\x7b").quote n.content
        |>.write "\x7d</Text>").newline) := by
  cases n
  simp only at text
  rw [writeNode, beginElement, registered]
  simp [bind, Except.bind, pure, Except.pure, text, writeText, reporting, mentioning, writing,
    entering, Node.primitive, Node.events]

theorem writeNode_of_childless
    (registered : d.styles.register n.name (n.effectiveStyles options) = .ok r)
    (container : n.kind.isContainer = true) (childless : n.children = []) :
    d.writeNode options n = .ok ((d.entering n r).writing fun b =>
      ((writeStyleAttribute r.key (b.write "<View")).write " />").newline) := by
  cases n
  simp only at container childless
  rw [writeNode, beginElement, registered]
  simp [bind, Except.bind, pure, Except.pure, container, childless, openView, reporting, mentioning,
    writing, entering, Node.primitive, Node.events]

theorem writeNode_of_children
    (registered : d.styles.register n.name (n.effectiveStyles options) = .ok r)
    (container : n.kind.isContainer = true) (children : n.children ≠ []) :
    d.writeNode options n
      = (Draft.writeNodes options n.children ((d.entering n r).writing fun b =>
          ((writeStyleAttribute r.key (b.write "<View")).write ">").newline.indent)).map
        fun d => d.writing fun b => (b.dedent.write "</View>").newline := by
  cases n
  simp only at container children
  rw [writeNode, beginElement, registered]
  simp [bind, Except.bind, pure, Except.pure, container, children, openView, reporting, mentioning,
    writing, entering, Node.primitive, Node.events]
  rfl

/-! ## What a walk notes -/

theorem map_eq_ok {ε α β : Type} {x : Except ε α} {f : α → β} {b : β} (h : x.map f = .ok b) :
    ∃ a, x = .ok a ∧ f a = b := by
  cases x with
  | error e => cases h
  | ok a => exact ⟨a, rfl, Except.ok.inj h⟩

theorem walkNotes_map {walk : Except EmitFailure Draft} {f : Draft → Draft}
    (same : ∀ d, (f d).notes = d.notes) : walkNotes (walk.map f) = walkNotes walk := by
  cases walk with
  | error failure => rfl
  | ok d => exact congrArg Except.ok (same d)

/-- One node notes its visit, and then what its children note. -/
theorem notes_writeNode_step
    (below : ∀ d : Draft, walkNotes (Draft.writeNodes options n.children d)
      = (Node.renderedAll n.children).foldlM (Notes.visit options) d.notes) (d : Draft) :
    walkNotes (d.writeNode options n) = n.rendered.foldlM (Notes.visit options) d.notes := by
  rw [Node.rendered_eq, List.foldlM_cons]
  cases registered : d.styles.register n.name (n.effectiveStyles options) with
  | error e =>
      rw [writeNode_of_error registered, visit_of_error registered]
      rfl
  | ok r =>
      rw [visit_of_register registered]
      cases container : n.kind.isContainer with
      | false =>
          rw [writeNode_of_text registered container]
          rfl
      | true =>
          by_cases childless : n.children = []
          · rw [writeNode_of_childless registered container childless, childless]
            rfl
          · rw [writeNode_of_children registered container childless, walkNotes_map fun d => notes_writing d _,
              below]
            rfl

mutual
/-- A walk notes what the visits of the rendered nodes note, and fails where they fail. -/
theorem notes_writeNode (options : ComponentOptions) : ∀ (n : Node) (d : Draft),
    walkNotes (d.writeNode options n) = n.rendered.foldlM (Notes.visit options) d.notes
  | ⟨_, _, _, _, children, _, _⟩, d => notes_writeNode_step (notes_writeNodes options children) d

theorem notes_writeNodes (options : ComponentOptions) : ∀ (nodes : List Node) (d : Draft),
    walkNotes (Draft.writeNodes options nodes d)
      = (Node.renderedAll nodes).foldlM (Notes.visit options) d.notes
  | [], d => by
      rw [writeNodes, Node.renderedAll]
      rfl
  | n :: rest, d => by
      have first := notes_writeNode options n d
      rw [writeNodes, Node.renderedAll, List.foldlM_append, ← first]
      cases d.writeNode options n with
      | error failure => rfl
      | ok d' => exact notes_writeNodes options rest d'
end

end Draft

namespace Notes

variable {options : ComponentOptions} {s s' : Notes}

/-- A visit fails exactly on the first fault of the node's declarations. -/
theorem visit_of_invalid {n : Node} {e : InvalidStyle} (invalid : n.invalidStyle? options = some e) :
    s.visit options n = .error (e, s) := by
  obtain ⟨⟨property, fault⟩, first, rfl⟩ := Option.map_eq_some_iff.mp invalid
  rw [visit, StyleTable.register_of_fault first]

theorem exists_visit_of_valid {n : Node} (valid : n.invalidStyle? options = none) :
    ∃ s', s.visit options n = .ok s' := by
  have faultless : firstFault? (sortDeclarations (n.effectiveStyles options).entries) = none :=
    Option.map_eq_none_iff.mp valid
  rw [visit]
  cases registered : s.styles.register n.name (n.effectiveStyles options) with
  | ok r => exact ⟨_, rfl⟩
  | error e =>
      rw [StyleTable.register] at registered
      split at registered
      · cases registered
      · simp only [faultless] at registered
        split at registered
        · cases registered
        · cases registered

/-- Visits fail on the first node with invalid declarations, if there is one. -/
theorem visits_of_invalid {nodes : List Node} {e : InvalidStyle}
    (invalid : nodes.findSome? (Node.invalidStyle? options) = some e) :
    ∃ s', nodes.foldlM (Notes.visit options) s = .error (e, s') := by
  induction nodes generalizing s with
  | nil => cases invalid
  | cons n rest ih =>
      rw [List.foldlM_cons]
      cases first : n.invalidStyle? options with
      | some e' =>
          rw [List.findSome?_cons, first] at invalid
          rw [visit_of_invalid first, Option.some.inj invalid]
          exact ⟨s, rfl⟩
      | none =>
          rw [List.findSome?_cons, first] at invalid
          obtain ⟨s₁, visit⟩ := exists_visit_of_valid (s := s) first
          rw [visit]
          exact ih invalid

theorem exists_visits_of_valid {nodes : List Node}
    (valid : nodes.findSome? (Node.invalidStyle? options) = none) :
    ∃ s', nodes.foldlM (Notes.visit options) s = .ok s' := by
  induction nodes generalizing s with
  | nil => exact ⟨s, rfl⟩
  | cons n rest ih =>
      rw [List.findSome?_eq_none_iff, List.forall_mem_cons] at valid
      obtain ⟨s₁, visit⟩ := exists_visit_of_valid (s := s) valid.1
      rw [List.foldlM_cons, visit]
      exact ih (List.findSome?_eq_none_iff.mpr valid.2)

theorem valid_of_visits {nodes : List Node}
    (visits : nodes.foldlM (Notes.visit options) s = .ok s') :
    nodes.findSome? (Node.invalidStyle? options) = none := by
  cases found : nodes.findSome? (Node.invalidStyle? options) with
  | none => rfl
  | some e =>
      obtain ⟨stopped, failing⟩ := visits_of_invalid (s := s) found
      rw [failing] at visits
      cases visits

/-- What a visit that succeeds does: it registers the node's declarations and notes its primitive. -/
theorem exists_register_of_visit {n : Node} (visit : s.visit options n = .ok s') :
    ∃ r, s.styles.register n.name (n.effectiveStyles options) = .ok r ∧ s'.styles = r.table ∧
      s'.imports = s.imports.insert n.primitive := by
  unfold Notes.visit at visit
  split at visit
  · cases visit
  · rename_i r registered
    rw [← Except.ok.inj visit]
    exact ⟨r, registered, rfl, rfl⟩

/-- Visits that succeed begin with one that does. -/
theorem exists_visit_of_visits {n : Node} {rest : List Node}
    (visits : (n :: rest).foldlM (Notes.visit options) s = .ok s') :
    ∃ s₁, s.visit options n = .ok s₁ ∧ rest.foldlM (Notes.visit options) s₁ = .ok s' := by
  rw [List.foldlM_cons] at visits
  cases visit : s.visit options n with
  | error e =>
      rw [visit] at visits
      cases visits
  | ok s₁ =>
      rw [visit] at visits
      exact ⟨s₁, rfl, visits⟩

theorem eq_of_visits_nil (visits : ([] : List Node).foldlM (Notes.visit options) s = .ok s') : s = s' := by
  rw [List.foldlM_nil] at visits
  exact Except.ok.inj visits

/-- Visiting a node makes the table list its style set. -/
theorem visit_lists {visited : List Node} {n : Node}
    (lists : s.styles.Lists options.stylePrefix (nodeSets options visited))
    (visit : s.visit options n = .ok s') :
    s'.styles.Lists options.stylePrefix (nodeSets options (visited ++ [n])) := by
  obtain ⟨r, registered, styles, -⟩ := exists_register_of_visit visit
  rw [styles]
  exact (lists.registerNode registered).1

theorem visits_lists {nodes visited : List Node}
    (lists : s.styles.Lists options.stylePrefix (nodeSets options visited))
    (visits : nodes.foldlM (Notes.visit options) s = .ok s') :
    s'.styles.Lists options.stylePrefix (nodeSets options (visited ++ nodes)) := by
  induction nodes generalizing s visited with
  | nil =>
      rw [List.append_nil, ← eq_of_visits_nil visits]
      exact lists
  | cons n rest ih =>
      obtain ⟨s₁, visit, others⟩ := exists_visit_of_visits visits
      rw [← List.singleton_append, ← List.append_assoc]
      exact ih (visit_lists lists visit) others

/-- Visits note the primitives of the nodes and no unknown symbol. -/
theorem visits_imports {nodes : List Node} (visits : nodes.foldlM (Notes.visit options) s = .ok s') :
    s'.imports.unknown = s.imports.unknown ∧
      ∀ p, s'.imports.used p = (s.imports.used p || nodes.any fun n => n.primitive == p) := by
  induction nodes generalizing s with
  | nil =>
      rw [← eq_of_visits_nil visits]
      exact ⟨rfl, fun p => by simp⟩
  | cons n rest ih =>
      obtain ⟨s₁, visit, others⟩ := exists_visit_of_visits visits
      obtain ⟨r, -, -, imports⟩ := exists_register_of_visit visit
      obtain ⟨unknown, used⟩ := ih others
      rw [imports] at unknown used
      refine ⟨unknown, fun p => ?_⟩
      rw [used p, List.any_cons]
      show ((p == n.primitive || s.imports.used p) || _) = _
      rw [← Bool.or_assoc, Bool.or_comm (p == n.primitive), BEq.comm]

end Notes

/-! ## What a walk writes -/

namespace Draft

variable {options : ComponentOptions} {nodes : List Node}

/-- Whether a walk through a row of nodes that succeeds writes the lines of their elements, when
the row is rendered between other nodes. -/
def WritesRow (options : ComponentOptions) (nodes row : List Node) : Prop :=
  ∀ {d d' : Draft} {visited more : List Node}, Draft.writeNodes options row d = .ok d' →
    d.code.atLineStart = true →
    d.styles.Lists options.stylePrefix (nodeSets options visited) →
    nodes = visited ++ Node.renderedAll row ++ more →
    d'.code = d.code.addLines (Element.rowLines d.code.options.quoteStyle d.code.level
      (Node.elements (Node.keyAmong options nodes) row))

theorem notes_of_writeNode {n : Node} {d d' : Draft} (h : d.writeNode options n = .ok d') :
    n.rendered.foldlM (Notes.visit options) d.notes = .ok d'.notes := by
  rw [← notes_writeNode, h]
  rfl

/-- A walk that fails fails on the first rendered node with invalid declarations. -/
theorem invalidStyle_of_writeNode {n : Node} {d : Draft} {failure : EmitFailure}
    (h : d.writeNode options n = .error failure) :
    n.rendered.findSome? (Node.invalidStyle? options) = some failure.error := by
  have notes := notes_writeNode options n d
  rw [h] at notes
  cases found : n.rendered.findSome? (Node.invalidStyle? options) with
  | none =>
      obtain ⟨s', visits⟩ := Notes.exists_visits_of_valid found
      rw [visits] at notes
      cases notes
  | some e =>
      obtain ⟨s', visits⟩ := Notes.visits_of_invalid found
      rw [visits] at notes
      exact congrArg some (Prod.mk.inj (Except.error.inj notes)).1.symm

/-- The lines of a node's element, given those of its children. -/
theorem code_writeNode_step {n : Node} (below : WritesRow options nodes n.children) {d d' : Draft}
    {visited more : List Node} (h : d.writeNode options n = .ok d')
    (start : d.code.atLineStart = true)
    (lists : d.styles.Lists options.stylePrefix (nodeSets options visited))
    (route : nodes = visited ++ n.rendered ++ more) :
    d'.code = d.code.addLines ((n.element (Node.keyAmong options nodes)).lines
      d.code.options.quoteStyle d.code.level) := by
  cases registered : d.styles.register n.name (n.effectiveStyles options) with
  | error e =>
      rw [writeNode_of_error registered] at h
      cases h
  | ok r =>
      obtain ⟨lists', key⟩ := lists.registerNode registered
      obtain ⟨later, seen⟩ : ∃ later, nodes = visited ++ [n] ++ later := by
        rw [route, Node.rendered_eq, ← List.singleton_append, List.append_assoc, List.append_assoc,
          ← List.append_assoc]
        exact ⟨_, rfl⟩
      -- The key that the node gets stays its key until all nodes have been visited.
      rw [← Node.keyAmong_append (by simp) later, ← seen] at key
      have oneLine : ∀ k ∈ n.keyAmong options nodes, IsOneLine k.toList := isOneLine_keyIn
      rw [Node.element_eq]
      cases container : n.kind.isContainer with
      | false =>
          rw [writeNode_of_text registered container, Except.ok.injEq, key] at h
          rw [← h]
          exact textElement_eq start oneLine n.content
      | true =>
          by_cases childless : n.children = []
          · rw [writeNode_of_childless registered container childless, Except.ok.injEq, key] at h
            rw [← h, childless]
            exact childlessView_eq start oneLine
          · rw [writeNode_of_children registered container childless, key] at h
            obtain ⟨d₁, row, rfl⟩ := map_eq_ok h
            have inside := below row
              (by
                rw [code_writing, code_entering, openingTag_eq start oneLine]
                exact CodeBuffer.atLineStart_addLines start _)
              lists'
              (by rw [route, Node.rendered_eq, container, if_pos rfl, List.append_cons])
            rw [code_writing, code_entering, openingTag_eq start oneLine] at inside
            have nonempty : (Node.elements (Node.keyAmong options nodes) n.children).isEmpty = false := by
              rw [Node.elements_eq_map, List.isEmpty_map]
              simpa using childless
            rw [code_writing, inside]
            exact childrenView_eq start nonempty

mutual
/-- A walk that succeeds writes the lines of the node's element. -/
theorem code_writeNode : ∀ (n : Node) {d d' : Draft} {visited more : List Node},
    d.writeNode options n = .ok d' → d.code.atLineStart = true →
    d.styles.Lists options.stylePrefix (nodeSets options visited) →
    nodes = visited ++ n.rendered ++ more →
    d'.code = d.code.addLines ((n.element (Node.keyAmong options nodes)).lines
      d.code.options.quoteStyle d.code.level)
  | ⟨_, _, _, _, children, _, _⟩, _, _, _, _, h, start, lists, route =>
      code_writeNode_step (code_writeNodes children) h start lists route

theorem code_writeNodes : ∀ row : List Node, WritesRow options nodes row
  | [], d, d', _, _, h, _, _, _ => by
      rw [writeNodes, Except.ok.injEq] at h
      rw [← h, Node.elements, Element.rowLines, CodeBuffer.addLines_nil]
  | n :: rest, d, d', visited, more, h, start, lists, route => by
      rw [Node.renderedAll] at route
      rw [writeNodes] at h
      cases first : d.writeNode options n with
      | error failure =>
          rw [first] at h
          cases h
      | ok d₁ =>
          rw [first] at h
          have route' : nodes = visited ++ n.rendered ++ Node.renderedAll rest ++ more := by
            rw [route, ← List.append_assoc visited]
          have code := code_writeNode n first start lists (route'.trans (List.append_assoc ..))
          have lists' : d₁.styles.Lists options.stylePrefix (nodeSets options (visited ++ n.rendered)) :=
            Notes.visits_lists lists (notes_of_writeNode first)
          have others := code_writeNodes rest h
            (by
              rw [code]
              exact CodeBuffer.atLineStart_addLines start _)
            lists' route'
          rw [others, code, Node.elements, Element.rowLines]
          simp
end

end Draft

end Viewsmith
