import Mathlib.Data.List.Nodup
import Viewsmith.Code.StateHooks
import Viewsmith.Proofs.Identifier.Setters

/-!
# Bindings of state hooks

Every state entry binds two names, and a file that binds a name twice is not a module. The hooks
warn of an entry whose name an earlier entry has, but what is bound is the identifier of the name, and
different names can have one identifier. So there are two things to say about the hooks of a component
(`bindings_of_writeStateHooks`): the warnings are those for repeated names, and the names that are
bound are all different exactly if each two entries are apart (`BindApart`), a condition on their
identifiers. Without it names collide and nothing is reported (`unreported_collision`).
-/

namespace Viewsmith

/-- The names that the hooks of state entries bind, in order. -/
def bindings (entries : List StateEntry) : List String :=
  entries.flatMap fun e => [getterName e.name, setterName e.name]

/-- Whether the hooks of two state entries bind no name in common. Their setters differ exactly if
the Pascal forms of their names do. -/
def BindApart (a b : String) : Prop :=
  camelName a ≠ camelName b ∧ pascalName a ≠ pascalName b ∧
    getterName a ≠ setterName b ∧ setterName a ≠ getterName b

instance (a b : String) : Decidable (BindApart a b) :=
  inferInstanceAs (Decidable (_ ∧ _))

theorem disjoint_bindings_iff (a b : String) :
    List.Disjoint [getterName a, setterName a] [getterName b, setterName b] ↔ BindApart a b := by
  have setters : pascalName a ≠ pascalName b ↔ setterName a ≠ setterName b :=
    not_congr (setterName_eq_iff a b).symm
  rw [BindApart, setters]
  simp only [List.disjoint_cons_left, List.disjoint_nil_left, List.mem_cons, List.not_mem_nil,
    or_false, not_or, and_true]
  constructor
  · rintro ⟨⟨getters, crossed⟩, crossed', setters⟩
    exact ⟨getters, setters, crossed, crossed'⟩
  · rintro ⟨getters, setters, crossed, crossed'⟩
    exact ⟨⟨getters, crossed⟩, crossed', setters⟩

/-- The names that are bound are all different exactly if each two entries are apart. -/
theorem nodup_bindings_iff (entries : List StateEntry) :
    (bindings entries).Nodup ↔ (entries.map (·.name)).Pairwise BindApart := by
  have own : ∀ e : StateEntry, [getterName e.name, setterName e.name].Nodup := by
    intro e
    simp [getterName_ne_setterName]
  rw [bindings, List.nodup_flatMap, and_iff_right fun e _ => own e, List.pairwise_map]
  apply iff_of_eq
  congr 1
  funext a b
  exact propext (disjoint_bindings_iff a.name b.name)

/-! ## Warnings -/

/-- The names that occur again in a list, each time they do; `seen` has occurred before. -/
def repeatedNames : List String → List String → List String
  | _, [] => []
  | seen, name :: rest =>
      (if seen.contains name then [name] else []) ++ repeatedNames (name :: seen) rest

theorem count_repeatedNames (name : String) (names : List String) :
    ∀ seen : List String, (repeatedNames seen names).count name
      = names.count name - if name ∈ seen then 0 else 1 := by
  induction names with
  | nil =>
      intro seen
      simp [repeatedNames]
  | cons first rest ih =>
      intro seen
      rw [repeatedNames, List.count_append, ih, List.count_cons]
      by_cases same : first = name
      · subst same
        by_cases before : first ∈ seen
        · simp [before]
          omega
        · simp [before]
      · have other : name ≠ first := Ne.symm same
        by_cases before : first ∈ seen
        · simp [before, same, other]
        · simp [before, same, other]

theorem repeatedNames_eq_nil_iff (names : List String) : repeatedNames [] names = [] ↔ names.Nodup := by
  rw [List.eq_nil_iff_forall_not_mem, List.nodup_iff_count_le_one]
  apply forall_congr'
  intro name
  rw [← List.count_eq_zero, count_repeatedNames, if_neg List.not_mem_nil]
  omega

namespace Draft

theorem log_writeHooks (component : String) : ∀ (entries : List StateEntry) (seen : List String)
    (d : Draft), (Draft.writeHooks component seen entries d).log
      = d.log ++ (repeatedNames seen (entries.map (·.name))).map (.duplicateState component)
  | [], _, _ => (List.append_nil _).symm
  | e :: rest, seen, d => by
      rw [writeHooks, log_writeHooks component rest, List.map_cons, repeatedNames, List.map_append,
        ← List.append_assoc]
      congr 1
      show d.log ++ _ = d.log ++ _
      split <;> rfl

theorem code_writeHooks_foldl (component : String) :
    ∀ (entries : List StateEntry) (seen : List String) (d : Draft),
      (Draft.writeHooks component seen entries d).code = entries.foldl writeHook d.code
  | [], _, _ => rfl
  | e :: rest, seen, _ => code_writeHooks_foldl component rest (e.name :: seen) _

theorem writeStateHooks_of_rootState {design : Design} {entries : List StateEntry}
    (state : design.rootState = some entries) (d : Draft) :
    d.writeStateHooks design = d.writeHooks design.root.name [] entries := by
  unfold Design.rootState at state
  unfold writeStateHooks
  cases page : design.root.page with
  | none =>
      rw [page] at state
      cases state
  | some page =>
      rw [page, Option.bind_some] at state
      simp only
      rw [page]
      simp only
      rw [state]

end Draft

/-- The hooks of a component with state are written one after another, and each warning stands for an
entry whose name an earlier entry has: a name that occurs `n` times is reported `n - 1` times, and
nothing is reported exactly if the names are all different. The names that the hooks bind, two for
each entry, are all different exactly if each two entries are apart. -/
theorem bindings_of_writeStateHooks {design : Design} {entries : List StateEntry}
    (state : design.rootState = some entries) (d : Draft) :
    (d.writeStateHooks design).code = entries.foldl writeHook d.code ∧
      (∃ repeated : List String,
        (d.writeStateHooks design).log
          = d.log ++ repeated.map (.duplicateState design.root.name) ∧
        (∀ name, repeated.count name = (entries.map (·.name)).count name - 1) ∧
        (repeated = [] ↔ (entries.map (·.name)).Nodup)) ∧
      ((bindings entries).Nodup ↔ (entries.map (·.name)).Pairwise BindApart) := by
  rw [Draft.writeStateHooks_of_rootState state]
  refine ⟨Draft.code_writeHooks_foldl _ _ _ _, ?_, nodup_bindings_iff entries⟩
  refine ⟨repeatedNames [] (entries.map (·.name)), Draft.log_writeHooks _ _ _ _, ?_,
    repeatedNames_eq_nil_iff _⟩
  intro name
  rw [count_repeatedNames, if_neg List.not_mem_nil]

def twoStateDesign (first second : String) : Design :=
  (Design.new ((Node.new .frame "Card").onPage "Home")).withState "Home" "Card" ⟨first, .text ""⟩
    |>.withState "Home" "Card" ⟨second, .text ""⟩

/-- Two entries of one name are reported once, and what they bind is not all different. -/
theorem bindings_of_twins :
    (twoStateDesign "is open" "is open").rootState
        = some [⟨"is open", .text ""⟩, ⟨"is open", .text ""⟩] ∧
      (∃ repeated : List String,
        ((Draft.new {}).writeStateHooks (twoStateDesign "is open" "is open")).log
          = (Draft.new {}).log ++ repeated.map (.duplicateState "Card") ∧
        repeated.count "is open" = 1) ∧
      ¬ (bindings [⟨"is open", .text ""⟩, ⟨"is open", .text ""⟩]).Nodup := by
  have state : (twoStateDesign "is open" "is open").rootState
      = some [⟨"is open", .text ""⟩, ⟨"is open", .text ""⟩] := by
    decide +kernel
  obtain ⟨-, ⟨repeated, log, counts, -⟩, apart⟩ := bindings_of_writeStateHooks state (Draft.new {})
  refine ⟨state, ⟨repeated, log, ?_⟩, ?_⟩
  · rw [counts]
    decide
  · rw [apart]
    simp [BindApart]

/-- Two names that differ in a separator have the same bindings, and nothing is reported. -/
theorem unreported_collision :
    (twoStateDesign "a b" "a-b").rootState = some [⟨"a b", .text ""⟩, ⟨"a-b", .text ""⟩] ∧
      ((Draft.new {}).writeStateHooks (twoStateDesign "a b" "a-b")).log = [] ∧
      ((Draft.new {}).writeStateHooks (twoStateDesign "a b" "a-b")).code.text
        = "const [aB, setAB] = useState('');\nconst [aB, setAB] = useState('');\n" ∧
      ¬ (bindings [⟨"a b", .text ""⟩, ⟨"a-b", .text ""⟩]).Nodup := by
  decide +kernel

end Viewsmith
