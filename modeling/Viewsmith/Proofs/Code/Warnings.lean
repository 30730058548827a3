import Mathlib.Data.List.Basic
import Viewsmith.Proofs.Code.Bindings
import Viewsmith.Proofs.Code.GeneratedLines
import Viewsmith.Proofs.Design.Descendants

/-!
# Warnings

A run warns of three things: of a style prefix that is no identifier, of a state entry whose name an
earlier entry has, and of a text whose children are dropped. They are noticed in different places,
while the style table is made, while the hooks are written and while the tree is walked. What a run
warns of is told by the design alone (`Design.warnings`), in the order in which a reader of the design
would come upon it (`warnings_of_generate`).
-/

namespace Viewsmith

/-! ## What is warned of -/

/-- The state entries whose name an earlier entry has, in order. -/
def repeatedEntries (entries : List StateEntry) : List StateEntry :=
  (entries.zipIdx.filter fun p => (entries.take p.2).any fun e => e.name = p.1.name).map Prod.fst

/-- Whether a node is a text with children. -/
def Node.dropsChildren (n : Node) : Bool := n.kind = .text && !n.children.isEmpty

def Design.warnings (options : ComponentOptions) (design : Design) : List LogEvent :=
  (if camelName options.stylePrefix = options.stylePrefix then []
    else [.sanitizedPrefix options.stylePrefix (camelName options.stylePrefix)])
    ++ (repeatedEntries (design.rootState.getD [])).map (fun e =>
      .duplicateState design.root.name e.name)
    ++ ((design.renderedNodes options).filter Node.dropsChildren).map fun n =>
      .ignoredChildren n.name

/-! ## The style table -/

theorem warnings_newEvents (label : String) :
    (StyleTable.newEvents label).filter LogEvent.isWarning
      = if camelName label = label then [] else [.sanitizedPrefix label (camelName label)] := by
  rw [StyleTable.newEvents]
  split <;> rfl

/-- Registering declarations is no cause for a warning. -/
theorem warnings_register {t : StyleTable} {node : String} {declarations : Declarations}
    {r : StyleTable.Registration} (registered : t.register node declarations = .ok r) :
    r.events.filter LogEvent.isWarning = [] := by
  rw [StyleTable.register] at registered
  split at registered
  · rw [← Except.ok.inj registered]
    rfl
  · simp only at registered
    split at registered
    · cases registered
    · split at registered <;> rw [← Except.ok.inj registered] <;> rfl

/-! ## State hooks -/

/-- The names that occur again are those of the entries with an earlier entry of their name. `before`
holds the entries whose names have been seen. -/
theorem repeatedNames_eq_zipIdx (rest : List StateEntry) :
    ∀ (before : List StateEntry) (seen : List String),
      (∀ name, name ∈ seen ↔ name ∈ before.map (·.name)) →
      repeatedNames seen (rest.map (·.name))
        = ((rest.zipIdx before.length).filter fun p =>
            ((before ++ rest).take p.2).any fun e => e.name = p.1.name).map fun p => p.1.name := by
  induction rest with
  | nil =>
      intro before seen _
      rfl
  | cons e rest ih =>
      intro before seen known
      have later := ih (before ++ [e]) (e.name :: seen) (by
        intro name
        rw [List.mem_cons, known, List.map_append, List.mem_append, List.map_singleton,
          List.mem_singleton]
        exact or_comm)
      rw [List.length_append, List.length_singleton, List.append_assoc, List.singleton_append]
        at later
      have first : ((before ++ e :: rest).take before.length).any (fun other => other.name = e.name)
          = seen.contains e.name := by
        rw [List.take_left, Bool.eq_iff_iff, List.any_eq_true, List.contains_iff_mem, known,
          List.mem_map]
        simp only [decide_eq_true_eq]
      rw [List.map_cons, repeatedNames, later, List.zipIdx_cons, List.filter_cons, first]
      split <;> rfl

theorem repeatedNames_eq_map (entries : List StateEntry) :
    repeatedNames [] (entries.map (·.name)) = (repeatedEntries entries).map (·.name) := by
  rw [repeatedNames_eq_zipIdx entries [] [] (by simp), repeatedEntries, List.map_map]
  rfl

namespace Draft

/-- The hooks of a design warn of its repeated state entries and of nothing else. -/
theorem warnings_writeStateHooks (design : Design) (d : Draft) :
    (d.writeStateHooks design).log.filter LogEvent.isWarning
      = d.log.filter LogEvent.isWarning
        ++ (repeatedEntries (design.rootState.getD [])).map fun e =>
          .duplicateState design.root.name e.name := by
  cases state : design.rootState with
  | some entries =>
      have warned : ((repeatedEntries entries).map fun e =>
            LogEvent.duplicateState design.root.name e.name).filter LogEvent.isWarning
          = (repeatedEntries entries).map fun e => .duplicateState design.root.name e.name := by
        rw [List.filter_map]
        exact congrArg _ (List.filter_eq_self.mpr fun _ _ => rfl)
      rw [writeStateHooks_of_rootState state, log_writeHooks, repeatedNames_eq_map, List.map_map,
        List.filter_append]
      exact congrArg _ warned
  | none =>
      rw [Option.getD_none, show repeatedEntries [] = [] from rfl, List.map_nil, List.append_nil]
      unfold Design.rootState at state
      unfold writeStateHooks
      cases page : design.root.page with
      | none =>
          simp only
          rw [page]
          simp only [reporting, List.filter_append]
          exact List.append_nil _
      | some name =>
          rw [page, Option.bind_some] at state
          simp only
          rw [page]
          simp only
          rw [state]

end Draft

/-! ## The walk -/

theorem Node.warnings_events (n : Node) :
    n.events.filter LogEvent.isWarning
      = if n.dropsChildren then [.ignoredChildren n.name] else [] := by
  rw [events, dropsChildren]
  cases kind : n.kind with
  | text => cases n.children.isEmpty <;> rfl
  | _ => rfl

namespace Notes

variable {options : ComponentOptions} {s s' : Notes}

/-- Visiting a node warns of the children that it drops. -/
theorem warnings_visit {n : Node} (visit : s.visit options n = .ok s') :
    s'.log.filter LogEvent.isWarning
      = s.log.filter LogEvent.isWarning
        ++ if n.dropsChildren then [.ignoredChildren n.name] else [] := by
  unfold Notes.visit at visit
  split at visit
  · cases visit
  · rename_i r registered
    rw [← Except.ok.inj visit]
    simp only [List.filter_append]
    rw [warnings_register registered, List.append_nil, n.warnings_events]

theorem warnings_visits {nodes : List Node}
    (visits : nodes.foldlM (Notes.visit options) s = .ok s') :
    s'.log.filter LogEvent.isWarning
      = s.log.filter LogEvent.isWarning
        ++ (nodes.filter Node.dropsChildren).map fun n => .ignoredChildren n.name := by
  induction nodes generalizing s with
  | nil =>
      rw [← eq_of_visits_nil visits]
      exact (List.append_nil _).symm
  | cons n rest ih =>
      obtain ⟨s₁, visit, others⟩ := exists_visit_of_visits visits
      rw [ih others, warnings_visit visit, List.filter_cons, List.append_assoc]
      congr 1
      split <;> rfl

end Notes

/-! ## Files -/

namespace Draft

/-- Writing a component warns of its repeated state entries, and then of the texts that drop
children. -/
theorem warnings_writeFunction {options : ComponentOptions} {design : Design} {d d' : Draft}
    (h : d.writeFunction options design = .ok d') :
    d'.log.filter LogEvent.isWarning
      = d.log.filter LogEvent.isWarning
        ++ (repeatedEntries (design.rootState.getD [])).map (fun e =>
          .duplicateState design.root.name e.name)
        ++ ((design.renderedNodes options).filter Node.dropsChildren).map fun n =>
          .ignoredChildren n.name := by
  rw [writeFunction] at h
  simp only at h
  generalize entered : (d.writing _).writeStateHooks design = d₁ at h
  have hooked : d₁.log.filter LogEvent.isWarning
      = d.log.filter LogEvent.isWarning ++ (repeatedEntries (design.rootState.getD [])).map fun e =>
        .duplicateState design.root.name e.name := by
    rw [← entered, warnings_writeStateHooks, log_writing]
  rw [← hooked, Design.renderedNodes]
  by_cases empty : design.root.isEmptyComponent options = true
  · rw [if_pos empty] at h
    rw [← Except.ok.inj h, if_pos empty]
    show (d₁.log ++ [LogEvent.emptyComponent design.root.name]).filter _ = _
    rw [List.filter_append]
    rfl
  · rw [if_neg empty] at h
    cases walk : (d₁.writing fun b => (b.write "return (").newline.indent).writeNode options
        design.root with
    | error failure =>
        rw [walk] at h
        cases h
    | ok d₂ =>
        have visits := notes_of_writeNode walk
        rw [notes_writing] at visits
        have warned := Notes.warnings_visits visits
        rw [walk] at h
        rw [← Except.ok.inj h, if_neg empty, log_writing, log_writing]
        exact warned

end Draft

/-- The warnings of a run that generates a file are those about its design: about the style prefix,
if it is not the identifier it becomes; about each state entry whose name an earlier entry has, in the
order of the entries; and about each rendered text with children, parents before children. -/
theorem warnings_of_generate {settings : Settings} {design : Design} {code : String}
    (h : (generate settings design).result = .ok code) :
    (generate settings design).log.filter LogEvent.isWarning
      = design.warnings settings.component := by
  rw [generate] at h ⊢
  cases written : ((Draft.new settings).reporting (StyleTable.newEvents
      settings.component.stylePrefix)).writeFunction settings.component design with
  | error failure =>
      rw [written] at h
      cases h
  | ok d =>
      obtain ⟨primitives, finished⟩ := finish_eq (Draft.component_of_writeFunction written)
      have begun : ((Draft.new settings).reporting
            (StyleTable.newEvents settings.component.stylePrefix)).log
          = StyleTable.newEvents settings.component.stylePrefix := List.nil_append _
      have warned := Draft.warnings_writeFunction written
      rw [begun, warnings_newEvents] at warned
      simp only [finished, List.filter_append]
      rw [warned, Design.warnings]
      exact List.append_nil _

/-- The card is warned of for its second entry and its outer text. The inner text is not rendered. -/
theorem warnings_of_nested :
    (∃ code, (generate {} nestedDesign).result = .ok code) ∧
      (generate {} nestedDesign).log.filter LogEvent.isWarning
        = [.duplicateState "Card" "open", .ignoredChildren "outer"] := by
  have valid : (nestedDesign.renderedNodes {}).findSome? (Node.invalidStyle? {}) = none := by
    decide
  have result := result_of_valid {} nestedDesign valid
  refine ⟨⟨_, result⟩, ?_⟩
  rw [warnings_of_generate result]
  decide +kernel

end Viewsmith
