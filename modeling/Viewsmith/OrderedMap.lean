/-!
# Maps in insertion order

A map from texts that remembers the order in which its keys first came. Putting a key again
replaces its value and keeps its place.
-/

namespace Viewsmith

def lookupEntry {β : Type} (key : String) : List (String × β) → Option β
  | [] => none
  | (k, v) :: rest => if k = key then some v else lookupEntry key rest

def upsertEntry {β : Type} (key : String) (change : Option β → β) :
    List (String × β) → List (String × β)
  | [] => [(key, change none)]
  | (k, v) :: rest =>
      if k = key then (k, change (some v)) :: rest else (k, v) :: upsertEntry key change rest

theorem keys_upsertEntry {β : Type} (key : String) (change : Option β → β)
    (entries : List (String × β)) :
    (upsertEntry key change entries).map Prod.fst
      = if key ∈ entries.map Prod.fst then entries.map Prod.fst
        else entries.map Prod.fst ++ [key] := by
  induction entries with
  | nil => simp [upsertEntry]
  | cons e rest ih =>
      obtain ⟨k, v⟩ := e
      rw [upsertEntry]
      by_cases h : k = key
      · simp [h]
      · have h' : key ≠ k := fun e => h e.symm
        simp only [if_neg h, List.map_cons, ih, List.mem_cons, h', false_or]
        split <;> simp

theorem nodup_keys_upsertEntry {β : Type} {key : String} {change : Option β → β}
    {entries : List (String × β)} (h : (entries.map Prod.fst).Nodup) :
    ((upsertEntry key change entries).map Prod.fst).Nodup := by
  rw [keys_upsertEntry]
  split
  · exact h
  · rename_i absent
    rw [List.nodup_append]
    refine ⟨h, by simp, ?_⟩
    intro a ha b hb same
    rw [List.mem_singleton] at hb
    exact absent (hb ▸ same ▸ ha)

/-- A map in insertion order: entries with pairwise distinct keys. -/
structure OrderedMap (β : Type) : Type where
  entries : List (String × β)
  nodup_keys : (entries.map Prod.fst).Nodup

namespace OrderedMap

variable {β : Type}

def empty : OrderedMap β := ⟨[], by simp⟩

instance : Inhabited (OrderedMap β) := ⟨empty⟩

def keys (m : OrderedMap β) : List String := m.entries.map Prod.fst

def find? (m : OrderedMap β) (key : String) : Option β := lookupEntry key m.entries

def contains (m : OrderedMap β) (key : String) : Bool := (m.find? key).isSome

def isEmpty (m : OrderedMap β) : Bool := m.entries.isEmpty

/-- Changes the value of a key, adding the key at the end if it is new. -/
def upsert (m : OrderedMap β) (key : String) (change : Option β → β) : OrderedMap β :=
  ⟨upsertEntry key change m.entries, nodup_keys_upsertEntry m.nodup_keys⟩

def insert (m : OrderedMap β) (key : String) (value : β) : OrderedMap β :=
  m.upsert key fun _ => value

def ofList (entries : List (String × β)) : OrderedMap β :=
  entries.foldl (fun m e => m.insert e.1 e.2) empty

@[ext]
theorem ext {m n : OrderedMap β} (h : m.entries = n.entries) : m = n := by
  cases m; cases n; simp_all

@[simp]
theorem entries_empty : (empty : OrderedMap β).entries = [] := rfl

@[simp]
theorem entries_upsert (m : OrderedMap β) (key : String) (change : Option β → β) :
    (m.upsert key change).entries = upsertEntry key change m.entries := rfl

end OrderedMap

end Viewsmith
