import Mathlib.Data.List.Basic
import Viewsmith.Proofs.Code.ImportStatements
import Viewsmith.Proofs.Code.StyleFaults
import Viewsmith.Proofs.Code.StyleRuns

/-!
# Failures

The one thing that can go wrong is a rendered node with a faulty declaration. The first such node is
reported, and what was noted up to there is what the nodes before it have contributed
(`failure_of_writeFunction`). Which node that is does not depend on the settings
(`failure_of_generate`).
-/

namespace Viewsmith

def Node.styleCall (options : ComponentOptions) (n : Node) : StyleCall :=
  ⟨n.name, n.effectiveStyles options⟩

namespace Notes

variable {options : ComponentOptions} {s s' : Notes}

/-! ## Visits -/

/-- Visits that fail have come to the first node that is refused, with the notes of the nodes
before it. -/
theorem firstRefused_of_visits {nodes : List Node} {e : InvalidStyle}
    (failed : nodes.foldlM (Notes.visit options) s = .error (e, s')) :
    ∃ before n, FirstRefused nodes before n e ∧ before.foldlM (Notes.visit options) s = .ok s' := by
  induction nodes generalizing s with
  | nil => cases failed
  | cons n rest ih =>
      rw [List.foldlM_cons] at failed
      cases invalid : n.invalidStyle? options with
      | some e' =>
          rw [visit_of_invalid invalid] at failed
          obtain ⟨rfl, rfl⟩ := Prod.mk.inj (Except.error.inj failed)
          exact ⟨[], n, ⟨⟨rest, rfl⟩, List.forall_mem_nil _, Node.invalidStyle?_eq_some.mp invalid⟩, rfl⟩
      | none =>
          obtain ⟨s₁, visit⟩ := exists_visit_of_valid (s := s) invalid
          rw [visit] at failed
          obtain ⟨before, m, first, visits⟩ := ih failed
          obtain ⟨after, route⟩ := first.route
          refine ⟨n :: before, m, ⟨⟨after, by rw [route, List.cons_append]⟩, ?_, first.refused⟩, ?_⟩
          · rw [List.forall_mem_cons]
            exact ⟨Node.invalidStyle?_eq_none.mp invalid, first.sound⟩
          · rw [List.foldlM_cons, visit]
            exact visits

/-- Visits leave the table of the run that registers the nodes one after the other. -/
theorem styles_of_visits {nodes : List Node}
    (visits : nodes.foldlM (Notes.visit options) s = .ok s') :
    s'.styles = (s.styles.run (nodes.map (Node.styleCall options))).2 := by
  induction nodes generalizing s with
  | nil =>
      rw [← eq_of_visits_nil visits]
      rfl
  | cons n rest ih =>
      obtain ⟨s₁, visit, others⟩ := exists_visit_of_visits visits
      obtain ⟨r, registered, styles, -⟩ := exists_register_of_visit visit
      have called : s₁.styles = (s.styles.call (n.styleCall options)).2 := by
        rw [styles, StyleTable.call, Node.styleCall, registered]
      rw [ih others, called]
      rfl

end Notes

/-! ## Component functions -/

namespace Draft

variable {options : ComponentOptions}

theorem firstRefused_of_writeNode {n : Node} {d : Draft} {failure : EmitFailure}
    (h : d.writeNode options n = .error failure) :
    ∃ before m, FirstRefused n.rendered before m failure.error ∧
      before.foldlM (Notes.visit options) d.notes = .ok failure.draft.notes := by
  have notes := notes_writeNode options n d
  rw [h] at notes
  exact Notes.firstRefused_of_visits notes.symm

/-- Writing a component fails on the first rendered node that is refused, whatever the draft that it
began with. The table is then what the registrations of the nodes before it have made of the table,
and the symbols that are mentioned are those of the hooks and of these nodes. -/
theorem failure_of_writeFunction {design : Design} {d : Draft} {failure : EmitFailure}
    (h : d.writeFunction options design = .error failure) :
    ∃ before n, FirstRefused design.root.rendered before n failure.error ∧
      failure.draft.styles = (d.styles.run (before.map (Node.styleCall options))).2 ∧
      failure.draft.imports.unknown = d.imports.unknown ∧
      ∀ p, failure.draft.imports.used p = true ↔
        d.imports.used p = true ∨ (p = .useState ∧ design.HasState) ∨ ∃ m ∈ before, m.primitive = p := by
  obtain ⟨-, header, opening, walk⟩ := walk_of_writeFunction h
  obtain ⟨before, n, first, visits⟩ := firstRefused_of_writeNode walk
  obtain ⟨unknown, used⟩ := Notes.visits_imports visits
  have imports : ((d.writing header).writeStateHooks design).imports
      = if (design.rootState.getD []).isEmpty then d.imports else d.imports.insert .useState := by
    rw [imports_writeStateHooks, imports_writing]
  refine ⟨before, n, first, ?_, ?_, ?_⟩
  · have styles := Notes.styles_of_visits visits
    rw [← styles_writing d header, ← styles_writeStateHooks design (d.writing header)]
    exact styles
  · refine unknown.trans ?_
    show ((d.writing header).writeStateHooks design).imports.unknown = d.imports.unknown
    rw [imports]
    split <;> rfl
  · intro p
    have mentioned : failure.draft.imports.used p
        = (((d.writing header).writeStateHooks design).imports.used p
          || before.any fun m => m.primitive == p) := used p
    rw [mentioned, imports, Design.hasState_iff]
    cases (design.rootState.getD []).isEmpty with
    | true => simp
    | false => simp [ImportSet.insert, or_left_comm, or_assoc]

end Draft

/-! ## Files -/

/-- A component that renders nothing has nothing to refuse. -/
theorem findSome?_renderedNodes (options : ComponentOptions) (design : Design) :
    (design.renderedNodes options).findSome? (Node.invalidStyle? options)
      = design.root.rendered.findSome? (Node.invalidStyle? options) := by
  rw [Design.renderedNodes]
  split
  · rename_i empty
    obtain ⟨container, childless, bare⟩ := Node.isEmptyComponent_iff.mp empty
    have alone : design.root.rendered = [design.root] := by
      rw [Node.rendered_eq, if_pos container, childless, Node.renderedAll]
    have valid : design.root.invalidStyle? options = none := by
      rw [Node.invalidStyle?, Node.entries_effectiveStyles, bare]
      rfl
    rw [alone, List.findSome?_cons, valid]
  · rfl

theorem result_generate_eq_error {settings : Settings} {design : Design} {error : GenerateError} :
    (generate settings design).result = .error error ↔
      ∃ e, design.root.rendered.findSome? (Node.invalidStyle? settings.component) = some e ∧
        error = .invalidStyle e := by
  rw [result_generate, findSome?_renderedNodes]
  cases design.root.rendered.findSome? (Node.invalidStyle? settings.component) with
  | none => simp
  | some e => simp [eq_comm]

/-- A file fails to be generated exactly if a rendered node has a declaration without a property or
with a number that is not finite. What is reported is the first such node and the first of its
properties with a fault, whatever the settings, and never an unknown import. When writing a component
fails, its draft has the styles and the symbols of what came before that node, and no more. -/
theorem failure_of_generate (settings : Settings) (design : Design) :
    ((∃ error, (generate settings design).result = .error error) ↔
      ∃ n ∈ design.root.rendered, ∃ d ∈ n.styles.entries,
        d.1 = "" ∨ ∃ x, d.2 = .number x ∧ x.isFinite = false) ∧
    (∀ error, (generate settings design).result = .error error →
      (∃ before n e, FirstRefused design.root.rendered before n e ∧ error = .invalidStyle e) ∧
        ∀ other : Settings, (generate other design).result = .error error) ∧
    ∀ (d : Draft) (failure : EmitFailure),
      d.writeFunction settings.component design = .error failure →
        ∃ before n, FirstRefused design.root.rendered before n failure.error ∧
          failure.draft.styles
            = (d.styles.run (before.map (Node.styleCall settings.component))).2 ∧
          failure.draft.imports.unknown = d.imports.unknown ∧
          ∀ p, failure.draft.imports.used p = true ↔
            d.imports.used p = true ∨ (p = .useState ∧ design.HasState) ∨
              ∃ m ∈ before, m.primitive = p := by
  refine ⟨?fails, ?reports, fun d failure h => Draft.failure_of_writeFunction h⟩
  case fails =>
    simp only [result_generate_eq_error]
    constructor
    · rintro ⟨error, e, found, -⟩
      exact exists_invalidStyle_iff.mp ⟨e, found⟩
    · intro faulty
      obtain ⟨e, found⟩ := exists_invalidStyle_iff.mpr faulty
      exact ⟨_, e, found, rfl⟩
  case reports =>
    intro error failed
    obtain ⟨e, found, rfl⟩ := result_generate_eq_error.mp failed
    obtain ⟨before, n, first⟩ := findSome?_invalidStyle?_eq_some.mp found
    refine ⟨⟨before, n, e, first, rfl⟩, fun other => ?_⟩
    exact result_generate_eq_error.mpr ⟨e, findSome?_invalidStyle?_eq_some.mpr ⟨before, n, first⟩, rfl⟩

/-- A card with a declaration that has no property. -/
def namelessDesign : Design := Design.new ((Node.new .component "card").withStyle "" (.text "red"))

/-- The card is refused for that declaration, when nothing has been registered yet. -/
theorem failure_of_nameless :
    (generate {} namelessDesign).result = .error (.invalidStyle ⟨"card", "", .emptyProperty⟩) ∧
      (∃ n ∈ namelessDesign.root.rendered, ∃ d ∈ n.styles.entries,
        d.1 = "" ∨ ∃ x, d.2 = .number x ∧ x.isFinite = false) ∧
      (∀ other : Settings, (generate other namelessDesign).result
        = .error (.invalidStyle ⟨"card", "", .emptyProperty⟩)) ∧
      ∃ failure, (Draft.new {}).writeFunction {} namelessDesign = .error failure ∧
        ∃ before n, FirstRefused namelessDesign.root.rendered before n failure.error := by
  have failed : (generate {} namelessDesign).result
      = .error (.invalidStyle ⟨"card", "", .emptyProperty⟩) := by decide
  obtain ⟨failure, written⟩ : ∃ failure,
      (Draft.new {}).writeFunction {} namelessDesign = .error failure := ⟨_, rfl⟩
  obtain ⟨fails, reports, leaves⟩ := failure_of_generate {} namelessDesign
  obtain ⟨before, n, first, -⟩ := leaves _ failure written
  exact ⟨failed, fails.mp ⟨_, failed⟩, (reports _ failed).2, failure, written, before, n, first⟩

end Viewsmith
