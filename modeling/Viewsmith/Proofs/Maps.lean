import Mathlib.Data.List.Basic
import Viewsmith.OrderedMap

/-!
# Maps by their entries

Looking up a key finds its entry (`OrderedMap.find?_eq_some`), and a key that is new comes after all
others (`OrderedMap.entries_insert_of_absent`).
-/

namespace Viewsmith

variable {β : Type}

/-! ## Lists of entries -/

theorem lookupEntry_eq_none {key : String} {entries : List (String × β)} :
    lookupEntry key entries = none ↔ key ∉ entries.map Prod.fst := by
  induction entries with
  | nil => simp [lookupEntry]
  | cons e rest ih =>
      rw [lookupEntry]
      by_cases h : e.1 = key
      · simp [h]
      · have h' : key ≠ e.1 := fun same => h same.symm
        simp [h, h', ih]

theorem mem_of_lookupEntry {key : String} {entries : List (String × β)} {v : β}
    (found : lookupEntry key entries = some v) : (key, v) ∈ entries := by
  induction entries with
  | nil => cases found
  | cons e rest ih =>
      rw [lookupEntry] at found
      split at found
      · rename_i h
        rw [List.mem_cons]
        left
        exact Prod.ext h.symm (Option.some.inj found).symm
      · exact List.mem_cons_of_mem _ (ih found)

theorem lookupEntry_eq_some {entries : List (String × β)} (nodup : (entries.map Prod.fst).Nodup)
    {key : String} {v : β} : lookupEntry key entries = some v ↔ (key, v) ∈ entries := by
  constructor
  · exact mem_of_lookupEntry
  · intro inside
    induction entries with
    | nil => cases inside
    | cons e rest ih =>
        rw [List.map_cons, List.nodup_cons] at nodup
        obtain ⟨fresh, nodup⟩ := nodup
        rw [lookupEntry]
        rcases List.mem_cons.mp inside with rfl | inside
        · simp
        · have other : e.1 ≠ key := by
            rintro rfl
            exact fresh (List.mem_map.mpr ⟨_, inside, rfl⟩)
          rw [if_neg other, ih nodup inside]

theorem upsertEntry_of_absent {key : String} {change : Option β → β} {entries : List (String × β)}
    (absent : key ∉ entries.map Prod.fst) :
    upsertEntry key change entries = entries ++ [(key, change none)] := by
  induction entries with
  | nil => rfl
  | cons e rest ih =>
      rw [List.map_cons, List.mem_cons, not_or] at absent
      rw [upsertEntry, if_neg (Ne.symm absent.1), ih absent.2, List.cons_append]

theorem lookupEntry_upsertEntry (key : String) (change : Option β → β)
    (entries : List (String × β)) :
    lookupEntry key (upsertEntry key change entries) = some (change (lookupEntry key entries)) := by
  induction entries with
  | nil => simp [upsertEntry, lookupEntry]
  | cons e rest ih =>
      rw [upsertEntry]
      by_cases h : e.1 = key
      · simp [h, lookupEntry]
      · simp [h, lookupEntry, ih]

theorem lookupEntry_upsertEntry_of_ne {key other : String} (ne : key ≠ other) (change : Option β → β)
    (entries : List (String × β)) :
    lookupEntry other (upsertEntry key change entries) = lookupEntry other entries := by
  induction entries with
  | nil => simp [upsertEntry, lookupEntry, ne]
  | cons e rest ih =>
      by_cases h : e.1 = key
      · simp [upsertEntry, lookupEntry, h, ne]
      · simp [upsertEntry, lookupEntry, h, ih]

/-! ## Maps -/

namespace OrderedMap

theorem find?_upsert (m : OrderedMap β) (key : String) (change : Option β → β) :
    (m.upsert key change).find? key = some (change (m.find? key)) :=
  lookupEntry_upsertEntry key change m.entries

theorem find?_upsert_of_ne (m : OrderedMap β) {key other : String} (ne : key ≠ other)
    (change : Option β → β) : (m.upsert key change).find? other = m.find? other :=
  lookupEntry_upsertEntry_of_ne ne change m.entries

theorem find?_insert (m : OrderedMap β) (key other : String) (v : β) :
    (m.insert key v).find? other = if key = other then some v else m.find? other := by
  split
  · rename_i same
    subst same
    exact m.find?_upsert key fun _ => v
  · rename_i ne
    exact m.find?_upsert_of_ne ne fun _ => v

theorem find?_eq_some {m : OrderedMap β} {key : String} {v : β} :
    m.find? key = some v ↔ (key, v) ∈ m.entries :=
  lookupEntry_eq_some m.nodup_keys

theorem contains_eq_true {m : OrderedMap β} {key : String} :
    m.contains key = true ↔ key ∈ m.keys := by
  rw [contains, find?, Option.isSome_iff_ne_none, ne_eq, lookupEntry_eq_none, not_not, keys]

theorem entries_insert_of_absent {m : OrderedMap β} {key : String} (absent : key ∉ m.keys) (v : β) :
    (m.insert key v).entries = m.entries ++ [(key, v)] :=
  upsertEntry_of_absent absent

def map {γ : Type} (f : β → γ) (m : OrderedMap β) : OrderedMap γ where
  entries := m.entries.map fun e => (e.1, f e.2)
  nodup_keys := by
    rw [List.map_map]
    exact m.nodup_keys

theorem map_id (m : OrderedMap β) : m.map id = m := ext (List.map_id m.entries)

theorem find?_map {γ : Type} (f : β → γ) (m : OrderedMap β) (key : String) :
    (m.map f).find? key = (m.find? key).map f := by
  show lookupEntry key (m.entries.map fun e => (e.1, f e.2)) = (lookupEntry key m.entries).map f
  induction m.entries with
  | nil => rfl
  | cons e rest ih =>
      rw [List.map_cons, lookupEntry, lookupEntry, ih]
      split <;> rfl

end OrderedMap

end Viewsmith
