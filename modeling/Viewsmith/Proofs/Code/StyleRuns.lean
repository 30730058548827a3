import Mathlib.Data.List.Basic
import Viewsmith.Proofs.Code.StyleMaps

/-!
# Runs of registrations

A style table is filled by a run of calls, some of which may fail. Whatever the run, the table holds
one entry for each map of declarations that could be registered, in the order in which the maps first
came, and a call is answered with the entry of its map (`StyleTable.Holds.call`). So two calls are
answered alike exactly if their declarations are the same map (`answers_of_run`).
-/

namespace Viewsmith

/-! ## Runs -/

structure StyleCall : Type where
  node : String
  declarations : Declarations

/-- What a call is answered: the key of an entry, nothing, or an error. -/
abbrev StyleAnswer : Type := Except InvalidStyle (Option String)

namespace StyleTable

/-- The answer to a call, and the table after it. A call that fails leaves the table of its
failure. -/
def call (t : StyleTable) (c : StyleCall) : StyleAnswer × StyleTable :=
  match t.register c.node c.declarations with
  | .ok r => (.ok r.key, r.table)
  | .error failure => (.error failure, failure.table)

def run (t : StyleTable) : List StyleCall → List StyleAnswer × StyleTable
  | [] => ([], t)
  | c :: rest => ((t.call c).1 :: ((t.call c).2.run rest).1, ((t.call c).2.run rest).2)

theorem run_append (t : StyleTable) (first second : List StyleCall) :
    t.run (first ++ second)
      = ((t.run first).1 ++ ((t.run first).2.run second).1, ((t.run first).2.run second).2) := by
  induction first generalizing t with
  | nil => rfl
  | cons c rest ih => simp only [List.cons_append, run, ih]

theorem length_run (t : StyleTable) (calls : List StyleCall) :
    (t.run calls).1.length = calls.length := by
  induction calls generalizing t with
  | nil => rfl
  | cons c rest ih => simp only [run, List.length_cons, ih]

end StyleTable

/-! ## Distinct declarations -/

/-- Whether a call asks for an entry that can be made. -/
def StyleCall.isStored (c : StyleCall) : Bool := !c.declarations.isEmpty && c.declarations.isValid

theorem StyleCall.isStored_eq_true {c : StyleCall} :
    c.isStored = true ↔ c.declarations.isEmpty = false ∧ c.declarations.isValid = true := by
  rw [isStored, Bool.and_eq_true, Bool.not_eq_true']

/-- The maps of declarations after one more call: its own map is added unless it has come before. -/
def addDistinct (maps : List Declarations) (c : StyleCall) : List Declarations :=
  if c.isStored = true ∧ ∀ ds ∈ maps, ¬ ds.Same c.declarations then maps ++ [c.declarations] else maps

/-- The distinct maps of declarations of a run, in the order in which they first come. -/
def distinctStyles (calls : List StyleCall) : List Declarations := calls.foldl addDistinct []

theorem prefix_addDistinct (maps : List Declarations) (c : StyleCall) :
    maps <+: addDistinct maps c := by
  unfold addDistinct
  split
  · exact List.prefix_append _ _
  · exact List.prefix_rfl

theorem prefix_foldl_addDistinct (maps : List Declarations) (calls : List StyleCall) :
    maps <+: calls.foldl addDistinct maps := by
  induction calls generalizing maps with
  | nil => exact List.prefix_rfl
  | cons c rest ih => exact (prefix_addDistinct maps c).trans (ih _)

/-! ## The table of a run -/

/-- Whether a table has an entry for each of some distinct maps of declarations, in their order. -/
structure StyleTable.Holds (t : StyleTable) (label : String) (maps : List Declarations) : Prop where
  lists : t.Lists label (maps.map Declarations.styleSet)
  distinct : (maps.map Declarations.styleSet).Nodup
  sorted : t.entries.map StyleEntry.declarations
    = maps.map fun ds => sortDeclarations ds.entries

/-- Whether an answer is the right one for a call, given the maps of a table: nothing for a call
without declarations, an error for one with declarations that cannot be written, and otherwise the
key of the entry of its own map. -/
structure StyleCall.AnsweredBy (c : StyleCall) (label : String) (maps : List Declarations)
    (answer : StyleAnswer) : Prop where
  empty : c.declarations.isEmpty = true → answer = .ok none
  invalid : c.declarations.isValid = false → ∃ e, answer = .error e
  stored : c.isStored = true → ∃ (n : Nat) (ds : Declarations),
    maps[n]? = some ds ∧ ds.Same c.declarations ∧ answer = .ok (some (entryKey label n))

/-- An answer stays right when more maps come. -/
theorem StyleCall.AnsweredBy.mono {c : StyleCall} {label : String} {maps more : List Declarations}
    {answer : StyleAnswer} (h : c.AnsweredBy label maps answer) (grown : maps <+: more) :
    c.AnsweredBy label more answer where
  empty := h.empty
  invalid := h.invalid
  stored := by
    intro stored
    obtain ⟨n, ds, found, same, key⟩ := h.stored stored
    obtain ⟨bound, -⟩ := List.getElem?_eq_some_iff.mp found
    obtain ⟨extra, rfl⟩ := grown
    exact ⟨n, ds, (List.getElem?_append_left bound).trans found, same, key⟩

/-- An answer with a key is that of the entry of the call. -/
theorem StyleCall.AnsweredBy.key {c : StyleCall} {label : String} {maps : List Declarations}
    {key : String} (h : c.AnsweredBy label maps (.ok (some key))) :
    ∃ (n : Nat) (ds : Declarations),
      maps[n]? = some ds ∧ ds.Same c.declarations ∧ key = entryKey label n := by
  cases empty : c.declarations.isEmpty with
  | true => cases h.empty empty
  | false =>
      cases valid : c.declarations.isValid with
      | false =>
          obtain ⟨e, failed⟩ := h.invalid valid
          cases failed
      | true =>
          obtain ⟨n, ds, found, same, key⟩ :=
            h.stored (StyleCall.isStored_eq_true.mpr ⟨empty, valid⟩)
          cases key
          exact ⟨n, ds, found, same, rfl⟩

theorem addDistinct_of_not_stored {c : StyleCall} (ignored : c.isStored = false)
    (maps : List Declarations) : addDistinct maps c = maps := by
  rw [addDistinct, ignored, if_neg (fun h => Bool.false_ne_true h.1)]

theorem Declarations.isValid_of_isEmpty {ds : Declarations} (empty : ds.isEmpty = true) :
    ds.isValid = true := by
  rw [OrderedMap.isEmpty, List.isEmpty_iff] at empty
  rw [isValid, empty]
  rfl

theorem styleSet_mem_map {maps : List Declarations} {ds : Declarations} :
    ds.styleSet ∈ maps.map Declarations.styleSet ↔ ∃ known ∈ maps, known.Same ds := by
  rw [List.mem_map]
  constructor
  · rintro ⟨known, member, same⟩
    exact ⟨known, member, Declarations.styleSet_eq_iff.mp same⟩
  · rintro ⟨known, member, same⟩
    exact ⟨known, member, Declarations.styleSet_eq_iff.mpr same⟩

/-- The map of a style set that is listed stands at its position. -/
theorem getElem?_idxOf_styleSet {maps : List Declarations} {ds : Declarations}
    (listed : ds.styleSet ∈ maps.map Declarations.styleSet) :
    ∃ known, maps[(maps.map Declarations.styleSet).idxOf ds.styleSet]? = some known ∧
      known.Same ds := by
  have bound := List.idxOf_lt_length_of_mem listed
  have found := List.getElem_idxOf bound
  rw [List.getElem_map] at found
  rw [List.length_map] at bound
  exact ⟨_, List.getElem?_eq_getElem bound, Declarations.styleSet_eq_iff.mp found⟩

namespace StyleTable.Holds

variable {t : StyleTable} {label : String} {maps : List Declarations}

theorem new (label : String) : (StyleTable.new label).Holds label [] where
  lists := StyleTable.Lists.new label
  distinct := List.nodup_nil
  sorted := rfl

/-- The table with an entry for a map that it did not hold. -/
theorem insert (h : t.Holds label maps) {ds : Declarations}
    (fresh : ds.styleSet ∉ maps.map Declarations.styleSet) :
    StyleTable.Holds
      { t with
        rows := t.rows.insert (signature (sortDeclarations ds.entries))
          ⟨t.nextKey, sortDeclarations ds.entries⟩ } label (maps ++ [ds]) where
  lists := by
    rw [List.map_append]
    exact h.lists.insert fresh
  distinct := by
    rw [List.map_append, List.map_singleton, List.nodup_append]
    refine ⟨h.distinct, List.nodup_singleton _, ?_⟩
    rintro a ha b hb rfl
    exact fresh (List.mem_singleton.mp hb ▸ ha)
  sorted := by
    rw [StyleTable.entries, h.lists.entries_insert fresh, List.map_append, List.map_append,
      List.map_append, ← StyleTable.entries, h.sorted]
    rfl

/-- A call is answered with the entry of its map, and the table then holds that map. A call that
stores nothing leaves the table as it is. -/
theorem call (h : t.Holds label maps) (c : StyleCall) :
    (t.call c).2.Holds label (addDistinct maps c) ∧
      c.AnsweredBy label (addDistinct maps c) (t.call c).1 ∧
      (c.isStored = false → (t.call c).2 = t) := by
  cases empty : c.declarations.isEmpty with
  | true =>
      have ignored : c.isStored = false := by rw [StyleCall.isStored, empty]; rfl
      have valid := Declarations.isValid_of_isEmpty empty
      rw [StyleTable.call, StyleTable.register_of_isEmpty empty, addDistinct_of_not_stored ignored]
      refine ⟨h, ⟨fun _ => rfl, fun faulty => ?_, fun stored => ?_⟩, fun _ => rfl⟩
      · rw [valid] at faulty
        cases faulty
      · rw [ignored] at stored
        cases stored
  | false =>
      cases fault : firstFault? (sortDeclarations c.declarations.entries) with
      | some first =>
          have faulty : c.declarations.isValid = false := by
            rw [← Bool.not_eq_true, ← Declarations.firstFault?_sortDeclarations, fault]
            exact Option.some_ne_none first
          have ignored : c.isStored = false := by rw [StyleCall.isStored, faulty, Bool.and_false]
          rw [StyleTable.call, StyleTable.register_of_fault fault, addDistinct_of_not_stored ignored]
          refine ⟨h, ⟨fun none => ?_, fun _ => ⟨_, rfl⟩, fun stored => ?_⟩, fun _ => rfl⟩
          · rw [empty] at none
            cases none
          · rw [ignored] at stored
            cases stored
      | none =>
          have valid := (Declarations.firstFault?_sortDeclarations _).mp fault
          have stored : c.isStored = true := StyleCall.isStored_eq_true.mpr ⟨empty, valid⟩
          have answered {maps : List Declarations} {answer : StyleAnswer}
              (found : ∃ (n : Nat) (ds : Declarations), maps[n]? = some ds ∧
                ds.Same c.declarations ∧ answer = .ok (some (entryKey label n))) :
              c.AnsweredBy label maps answer := by
            refine ⟨fun none => ?_, fun faulty => ?_, fun _ => found⟩
            · rw [empty] at none
              cases none
            · rw [valid] at faulty
              cases faulty
          have kept : ¬ c.isStored = false := by simp [stored]
          by_cases known : c.declarations.styleSet ∈ maps.map Declarations.styleSet
          · obtain ⟨ds, found, same⟩ := getElem?_idxOf_styleSet known
            have old : addDistinct maps c = maps := by
              obtain ⟨ds, member, same⟩ := styleSet_mem_map.mp known
              rw [addDistinct, if_neg (fun fresh => fresh.2 ds member same)]
            rw [StyleTable.call, h.lists.register_of_listed h.distinct fault empty known, old]
            exact ⟨h, answered ⟨_, ds, found, same, rfl⟩, fun ignored => absurd ignored kept⟩
          · have new : addDistinct maps c = maps ++ [c.declarations] := by
              rw [addDistinct, if_pos]
              refine ⟨stored, fun ds member same => ?_⟩
              exact known (styleSet_mem_map.mpr ⟨ds, member, same⟩)
            rw [StyleTable.call, h.lists.register_of_fresh fault empty known, new]
            refine ⟨h.insert known, answered ⟨maps.length, c.declarations, ?_, ?_, ?_⟩,
              fun ignored => absurd ignored kept⟩
            · simp
            · exact fun _ => rfl
            · rw [List.length_map]

/-- The table of a run holds the distinct maps of the run. -/
theorem run (h : t.Holds label maps) (calls : List StyleCall) :
    (t.run calls).2.Holds label (calls.foldl addDistinct maps) := by
  induction calls generalizing t maps with
  | nil => exact h
  | cons c rest ih => exact ih (h.call c).1

/-- An entry of the table has the number of its map, and the declarations of the map in the order of
their properties. -/
theorem entry (h : t.Holds label maps) {n : Nat} {ds : Declarations} (found : maps[n]? = some ds) :
    t.entries[n]? = some ⟨entryKey label n, sortDeclarations ds.entries⟩ := by
  have declarations : (t.entries[n]?).map StyleEntry.declarations
      = some (sortDeclarations ds.entries) := by
    rw [← List.getElem?_map, h.sorted, List.getElem?_map, found]
    rfl
  have written : (t.entries[n]?).map StyleEntry.written
      = some ⟨entryKey label n, ds.styleSet⟩ := by
    rw [← List.getElem?_map, h.lists.entries, numberedEntries, List.getElem?_mapIdx,
      List.getElem?_map, found]
    rfl
  obtain ⟨e, at_n, sorted⟩ := Option.map_eq_some_iff.mp declarations
  rw [at_n, Option.map_some, Option.some.injEq, StyleEntry.written, WrittenEntry.mk.injEq] at written
  rw [at_n, ← written.1, ← sorted]

theorem length_entries (h : t.Holds label maps) : t.entries.length = maps.length := by
  have lengths := congrArg List.length h.sorted
  rwa [List.length_map, List.length_map] at lengths

theorem pairwise (h : t.Holds label maps) : maps.Pairwise fun a b => ¬ a.Same b := by
  refine (List.pairwise_map.mp h.distinct).imp fun different same => ?_
  exact different (Declarations.styleSet_eq_iff.mpr same)

/-- Different positions hold different maps. -/
theorem position_inj (h : t.Holds label maps) {m n : Nat} {a b : Declarations}
    (atM : maps[m]? = some a) (atN : maps[n]? = some b) : m = n ↔ a.Same b := by
  constructor
  · rintro rfl
    rw [atM, Option.some.injEq] at atN
    subst atN
    exact fun _ => rfl
  · intro same
    obtain ⟨bound, -⟩ := List.getElem?_eq_some_iff.mp atM
    refine (List.getElem?_inj (by rwa [List.length_map]) h.distinct).mp ?_
    rw [List.getElem?_map, List.getElem?_map, atM, atN, Option.map_some, Option.map_some,
      Declarations.styleSet_eq_iff.mpr same]

end StyleTable.Holds

/-! ## Answers of a run -/

theorem distinctStyles_append (first second : List StyleCall) :
    distinctStyles (first ++ second) = second.foldl addDistinct (distinctStyles first) :=
  List.foldl_append

def styleAnswers (label : String) (calls : List StyleCall) : List StyleAnswer :=
  ((StyleTable.new label).run calls).1

def styleTable (label : String) (calls : List StyleCall) : StyleTable :=
  ((StyleTable.new label).run calls).2

theorem holds_styleTable (label : String) (calls : List StyleCall) :
    (styleTable label calls).Holds label (distinctStyles calls) :=
  (StyleTable.Holds.new label).run calls

/-- Each call of a run is answered for the maps of the whole run. -/
theorem answeredBy_of_run (label : String) {calls : List StyleCall} {i : Nat} {c : StyleCall}
    (called : calls[i]? = some c) :
    ∃ answer, (styleAnswers label calls)[i]? = some answer ∧
      c.AnsweredBy label (distinctStyles calls) answer ∧
      (c.isStored = false →
        styleTable label (calls.take (i + 1)) = styleTable label (calls.take i)) := by
  obtain ⟨bound, rfl⟩ := List.getElem?_eq_some_iff.mp called
  obtain ⟨-, answered, kept⟩ := (holds_styleTable label (calls.take i)).call calls[i]
  have upto : calls.take (i + 1) = calls.take i ++ [calls[i]] := (List.take_append_getElem bound).symm
  have split : calls = calls.take i ++ calls[i] :: calls.drop (i + 1) := by
    rw [← List.drop_eq_getElem_cons bound, List.take_append_drop]
  -- The maps up to this call stay where they are while the run goes on.
  have grown : addDistinct (distinctStyles (calls.take i)) calls[i] <+: distinctStyles calls := by
    conv => rhs; rw [split]
    rw [distinctStyles_append, List.foldl_cons]
    exact prefix_foldl_addDistinct _ _
  refine ⟨((styleTable label (calls.take i)).call calls[i]).1, ?_, ?_, ?_⟩
  · conv => lhs; rw [split]
    rw [styleAnswers, StyleTable.run_append, List.getElem?_append_right (by simp [StyleTable.length_run])]
    simp [StyleTable.length_run, StyleTable.run, styleTable, Nat.min_eq_left (Nat.le_of_lt bound)]
  · exact answered.mono grown
  · intro ignored
    rw [upto, styleTable, StyleTable.run_append]
    exact kept ignored

/-- What a run of registrations does, whatever the calls. A call without declarations is answered
with nothing, one with declarations that cannot be written fails, and neither changes the table. All
other calls are answered with the key of their map, so two answers are equal exactly if the
declarations are the same map. The table then has one entry for each distinct map, numbered in the
order in which they came, with the declarations sorted by their properties. -/
theorem answers_of_run (label : String) (calls : List StyleCall) :
    (styleAnswers label calls).length = calls.length ∧
      (∀ (i : Nat) (c : StyleCall), calls[i]? = some c →
        ∃ answer, (styleAnswers label calls)[i]? = some answer ∧
          (c.declarations.isEmpty = true → answer = .ok none) ∧
          (c.declarations.isValid = false → ∃ e, answer = .error e) ∧
          (c.isStored = true → ∃ (n : Nat) (ds : Declarations),
            (distinctStyles calls)[n]? = some ds ∧ ds.Same c.declarations ∧
              answer = .ok (some (camelName label ++ "_" ++ toString n))) ∧
          (c.isStored = false →
            styleTable label (calls.take (i + 1)) = styleTable label (calls.take i))) ∧
      (∀ (i j : Nat) (c d : StyleCall) (k l : String), calls[i]? = some c → calls[j]? = some d →
        (styleAnswers label calls)[i]? = some (.ok (some k)) →
        (styleAnswers label calls)[j]? = some (.ok (some l)) →
        (k = l ↔ c.declarations.Same d.declarations)) ∧
      (distinctStyles calls).Pairwise (fun a b => ¬ a.Same b) ∧
      (styleTable label calls).entries.length = (distinctStyles calls).length ∧
      ∀ (n : Nat) (ds : Declarations), (distinctStyles calls)[n]? = some ds →
        ∃ e, (styleTable label calls).entries[n]? = some e ∧
          e.key = camelName label ++ "_" ++ toString n ∧ e.declarations.Perm ds.entries ∧
          (e.declarations.map Prod.fst).Pairwise (· < ·) := by
  have whole := holds_styleTable label calls
  refine ⟨StyleTable.length_run _ _, ?answered, ?keys, whole.pairwise, whole.length_entries, ?entries⟩
  case answered =>
    intro i c called
    obtain ⟨answer, found, answered, kept⟩ := answeredBy_of_run label called
    exact ⟨answer, found, answered.empty, answered.invalid, answered.stored, kept⟩
  case keys =>
    intro i j c d k l atI atJ foundK foundL
    obtain ⟨_, found, answeredI, -⟩ := answeredBy_of_run label atI
    obtain rfl := Option.some.inj (foundK.symm.trans found)
    obtain ⟨_, found, answeredJ, -⟩ := answeredBy_of_run label atJ
    obtain rfl := Option.some.inj (foundL.symm.trans found)
    obtain ⟨m, a, atM, sameA, rfl⟩ := answeredI.key
    obtain ⟨n, b, atN, sameB, rfl⟩ := answeredJ.key
    calc entryKey label m = entryKey label n
      _ ↔ m = n := ⟨entryKey_inj, congrArg _⟩
      _ ↔ a.Same b := whole.position_inj atM atN
      _ ↔ c.declarations.Same d.declarations := by
        rw [← Declarations.styleSet_eq_iff] at sameA sameB ⊢
        rw [sameA, sameB, Declarations.styleSet_eq_iff]
  case entries =>
    intro n ds found
    refine ⟨_, whole.entry found, rfl, sortByKey_perm Prod.fst _, ?_⟩
    exact List.pairwise_map.mpr (pairwise_lt_sortByKey ds.nodup_keys)

end Viewsmith
