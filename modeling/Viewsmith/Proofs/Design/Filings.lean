import Mathlib.Data.List.Induction
import Viewsmith.Design.Document
import Viewsmith.Proofs.Maps

/-!
# Filed state entries

State entries are filed one after another, each for a component on a page. A component then has on a page
the entries that were filed for it there, in the order in which they were filed. Entries for other
components, or for components of its name on other pages, make no difference (`stateFor_of_filings`).
-/

namespace Viewsmith

structure Filing : Type where
  page : String
  component : String
  entry : StateEntry
deriving DecidableEq

def Filing.isFor (page component : String) (f : Filing) : Bool :=
  f.page = page && f.component = component

def entriesFor (page component : String) (filings : List Filing) : List StateEntry :=
  (filings.filter (·.isFor page component)).map Filing.entry

theorem entriesFor_append_singleton (page component : String) (filings : List Filing) (f : Filing) :
    entriesFor page component (filings ++ [f]) =
      entriesFor page component filings ++ if f.isFor page component then [f.entry] else [] := by
  rw [entriesFor, List.filter_append, List.map_append, List.filter_singleton, entriesFor]
  cases f.isFor page component <;> rfl

theorem entriesFor_eq_nil {page component : String} {filings : List Filing} :
    entriesFor page component filings = [] ↔
      ∀ f ∈ filings, ¬ (f.page = page ∧ f.component = component) := by
  simp [entriesFor, Filing.isFor]

namespace Design

variable (d : Design)

def file (filings : List Filing) : Design :=
  filings.foldl (fun d f => d.withState f.page f.component f.entry) d

theorem file_append_singleton (filings : List Filing) (f : Filing) :
    d.file (filings ++ [f]) = (d.file filings).withState f.page f.component f.entry := by
  rw [file, List.foldl_append, file]
  rfl

/-- The components with state on a page; there are none on a page that nothing was filed for. -/
def componentsOn (page : String) : OrderedMap (List StateEntry) :=
  ((d.localState.getD .empty).find? page).getD .empty

theorem stateFor_eq (page component : String) :
    d.stateFor page component = (d.componentsOn page).find? component := by
  rw [stateFor, componentsOn]
  cases d.localState with
  | none => rfl
  | some pages =>
      rw [Option.bind_some, Option.getD_some]
      cases pages.find? page with
      | none => rfl
      | some components => rfl

theorem componentsOn_withState (page component : String) (entry : StateEntry) (other : String) :
    (d.withState page component entry).componentsOn other =
      if page = other then
        (d.componentsOn page).upsert component fun entries => entries.getD [] ++ [entry]
      else d.componentsOn other := by
  split
  · rename_i same
    subst same
    rw [withState, componentsOn, Option.getD_some, OrderedMap.find?_upsert, Option.getD_some, componentsOn]
  · rename_i ne
    rw [withState, componentsOn, Option.getD_some, OrderedMap.find?_upsert_of_ne _ ne, componentsOn]

/-- Filing an entry adds it to those of its own component and page, and to no others. -/
theorem stateFor_withState (f : Filing) (page component : String) :
    (d.withState f.page f.component f.entry).stateFor page component =
      if f.isFor page component then some ((d.stateFor page component).getD [] ++ [f.entry])
      else d.stateFor page component := by
  rw [stateFor_eq, stateFor_eq, componentsOn_withState, Filing.isFor]
  by_cases samePage : f.page = page
  · rw [if_pos samePage, samePage]
    by_cases sameComponent : f.component = component
    · rw [sameComponent, OrderedMap.find?_upsert]
      simp
    · rw [OrderedMap.find?_upsert_of_ne _ sameComponent]
      simp [sameComponent]
  · simp [samePage]

/-- After a run of filings a component has what it had before and then what was filed for it. -/
theorem stateFor_file (filings : List Filing) (page component : String) :
    (d.file filings).stateFor page component =
      if entriesFor page component filings = [] then d.stateFor page component
      else some ((d.stateFor page component).getD [] ++ entriesFor page component filings) := by
  induction filings using List.reverseRecOn with
  | nil => rfl
  | append_singleton filings f ih =>
      rw [file_append_singleton, stateFor_withState, ih, entriesFor_append_singleton]
      cases f.isFor page component with
      | false => simp
      | true =>
          by_cases first : entriesFor page component filings = []
          · simp [first]
          · simp [first]

theorem root_file (filings : List Filing) : (d.file filings).root = d.root := by
  induction filings using List.reverseRecOn with
  | nil => rfl
  | append_singleton filings f ih =>
      rw [file_append_singleton, ← ih]
      rfl

end Design

/-- File any entries, in any order, in a document without local state. Then a component has no state on a
page exactly if nothing was filed for it there, and otherwise it has the entries that were, in the order
in which they were filed, however often a name comes among them. What is filed for other components and
pages can be left out or replaced, wherever it stands: with the same entries for a component in the same
order, the component has the same state. -/
theorem stateFor_of_filings (d : Design) (bare : d.localState = none) (filings : List Filing)
    (page component : String) :
    ((d.file filings).stateFor page component = none ↔
        ∀ f ∈ filings, ¬ (f.page = page ∧ f.component = component)) ∧
      (∀ entries, (d.file filings).stateFor page component = some entries ↔
        entries ≠ [] ∧ entries = entriesFor page component filings) ∧
      (∀ others : List Filing,
        others.filter (·.isFor page component) = filings.filter (·.isFor page component) →
          (d.file others).stateFor page component = (d.file filings).stateFor page component) ∧
      (d.file filings).root = d.root := by
  have before : d.stateFor page component = none := by
    rw [Design.stateFor, bare]
    rfl
  have after : ∀ run : List Filing, (d.file run).stateFor page component =
      if entriesFor page component run = [] then none
      else some (entriesFor page component run) := by
    intro run
    rw [Design.stateFor_file, before]
    rfl
  refine ⟨?_, ?_, ?_, d.root_file filings⟩
  · rw [after, ← entriesFor_eq_nil]
    split
    · rename_i absent
      exact iff_of_true rfl absent
    · rename_i present
      exact iff_of_false nofun present
  · intro entries
    rw [after]
    split
    · rename_i absent
      refine iff_of_false nofun ?_
      rintro ⟨present, rfl⟩
      exact present absent
    · rename_i present
      rw [Option.some.injEq]
      constructor
      · rintro rfl
        exact ⟨present, rfl⟩
      · exact fun h => h.2.symm
  · intro others kept
    rw [after, after, entriesFor, kept, entriesFor]

/-- Entries for one component, with entries in between for a namesake on another page and for another
component of the same page. -/
def mixedFilings : List Filing :=
  [⟨"Home", "Card", ⟨"open", .text "no"⟩⟩, ⟨"Shop", "Card", ⟨"open", .text "maybe"⟩⟩,
   ⟨"Home", "List", ⟨"size", .text "all"⟩⟩, ⟨"Home", "Card", ⟨"open", .text "yes"⟩⟩]

/-- The entries of a component are found among the others, and a component of a page without the other
name has none. -/
theorem stateFor_of_mixed :
    (Design.new (.new .frame "Card")).localState = none ∧
      ((Design.new (.new .frame "Card")).file mixedFilings).stateFor "Home" "Card"
        = some [⟨"open", .text "no"⟩, ⟨"open", .text "yes"⟩] ∧
      ((Design.new (.new .frame "Card")).file mixedFilings).stateFor "Shop" "List" = none := by
  have bare : (Design.new (.new .frame "Card")).localState = none := rfl
  obtain ⟨-, found, -, -⟩ := stateFor_of_filings _ bare mixedFilings "Home" "Card"
  obtain ⟨absent, -, -, -⟩ := stateFor_of_filings _ bare mixedFilings "Shop" "List"
  exact ⟨bare, (found _).mpr ⟨by simp, by decide⟩, absent.mpr (by decide)⟩

end Viewsmith
