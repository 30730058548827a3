import Mathlib.Data.List.Basic
import Mathlib.Data.List.Nodup
import Viewsmith.Proofs.Code.WrittenStyles
import Viewsmith.Proofs.Maps

/-!
# Style sets of a table

A style table has one entry for each way in which the declarations of the nodes so far are written,
numbered in the order in which these ways first came. What registering the next node does to the
table and which key the node gets is then a matter of lists (`StyleTable.Lists.register`), and keys
that were given stay what they are while the table grows (`keyIn_styleSets_append`).
-/

namespace Viewsmith

/-! ## Distinct style sets -/

def Declarations.styleSet (ds : Declarations) : WrittenStyles := written (sortDeclarations ds.entries)

theorem Declarations.styleSet_eq_nil (ds : Declarations) :
    ds.styleSet = [] ↔ ds.isEmpty = true := by
  rw [Declarations.styleSet, written_eq_nil, OrderedMap.isEmpty, List.isEmpty_iff]
  constructor
  · intro empty
    have permuted : [].Perm ds.entries := empty ▸ sortByKey_perm Prod.fst ds.entries
    exact permuted.nil_eq.symm
  · intro empty
    rw [empty]
    rfl

/-- The distinct style sets of nodes, in the order in which they first come. A node without
declarations has none. -/
def styleSets (all : List WrittenStyles) : List WrittenStyles := (all.filter (· ≠ [])).eraseDups

theorem mem_styleSets {all : List WrittenStyles} {s : WrittenStyles} :
    s ∈ styleSets all ↔ s ∈ all ∧ s ≠ [] := by
  simp [styleSets, List.mem_eraseDups]

theorem nodup_eraseDups {α : Type} [BEq α] [LawfulBEq α] : ∀ l : List α, l.eraseDups.Nodup
  | [] => List.nodup_nil
  | x :: rest => by
      rw [List.eraseDups_cons, List.nodup_cons, List.mem_eraseDups]
      exact ⟨by simp, nodup_eraseDups _⟩
termination_by l => l.length
decreasing_by
  exact Nat.lt_succ_of_le (List.length_filter_le ..)

theorem nodup_styleSets (all : List WrittenStyles) : (styleSets all).Nodup := nodup_eraseDups _

theorem styleSets_append (a b : List WrittenStyles) :
    ∃ more, styleSets (a ++ b) = styleSets a ++ more := by
  rw [styleSets, List.filter_append, List.eraseDups_append]
  exact ⟨_, rfl⟩

theorem styleSets_snoc (all : List WrittenStyles) (s : WrittenStyles) :
    styleSets (all ++ [s])
      = if s = [] ∨ s ∈ styleSets all then styleSets all else styleSets all ++ [s] := by
  rw [styleSets, List.filter_append, List.eraseDups_append, ← styleSets]
  by_cases empty : s = []
  · simp [empty, List.removeAll]
  · by_cases old : s ∈ all
    · simp [mem_styleSets, empty, old, List.removeAll]
    · simp [mem_styleSets, empty, old, List.removeAll, List.eraseDups_cons]

/-! ## Keys -/

def entryKey (label : String) (number : Nat) : String := camelName label ++ "_" ++ toString number

theorem entryKey_inj {label : String} {m n : Nat} (same : entryKey label m = entryKey label n) :
    m = n := by
  have digits : Nat.toDigits 10 m = Nat.toDigits 10 n := by
    simpa [entryKey, ← String.toList_inj, Nat.toString_eq_repr] using same
  simpa using congrArg (fun ds => Nat.ofDigitChars 10 ds 0) digits

/-- The key under which a table of style sets has the style set of a node. -/
def keyIn (label : String) (sets : List WrittenStyles) (s : WrittenStyles) : Option String :=
  if s = [] then none else some (entryKey label (sets.idxOf s))

@[simp]
theorem keyIn_nil (label : String) (sets : List WrittenStyles) : keyIn label sets [] = none := rfl

theorem keyIn_of_ne_nil {label : String} {sets : List WrittenStyles} {s : WrittenStyles}
    (declared : s ≠ []) : keyIn label sets s = some (entryKey label (sets.idxOf s)) := by
  rw [keyIn, if_neg declared]

/-- The key of a style set that has come does not depend on what comes later. -/
theorem keyIn_styleSets_append {label : String} {all : List WrittenStyles} {s : WrittenStyles}
    (known : s ∈ all) (more : List WrittenStyles) :
    keyIn label (styleSets (all ++ more)) s = keyIn label (styleSets all) s := by
  by_cases empty : s = []
  · rw [empty, keyIn_nil, keyIn_nil]
  · obtain ⟨extra, grown⟩ := styleSets_append all more
    rw [keyIn_of_ne_nil empty, keyIn_of_ne_nil empty, grown,
      List.idxOf_append_of_mem (mem_styleSets.mpr ⟨known, empty⟩)]

theorem filterMap_keyIn (label : String) (sets all : List WrittenStyles) :
    all.filterMap (keyIn label sets)
      = (all.filter (· ≠ [])).map fun s => entryKey label (sets.idxOf s) := by
  induction all with
  | nil => rfl
  | cons s rest ih =>
      by_cases empty : s = []
      · rw [List.filterMap_cons_none (by rw [empty, keyIn_nil]), ih]
        simp [empty]
      · rw [List.filterMap_cons_some (keyIn_of_ne_nil empty), ih]
        simp [empty]

theorem eraseDups_map {α β : Type} [BEq α] [LawfulBEq α] [BEq β] [LawfulBEq β] {f : α → β} :
    ∀ {l : List α}, (∀ a ∈ l, ∀ b ∈ l, f a = f b → a = b) → (l.map f).eraseDups = l.eraseDups.map f
  | [], _ => rfl
  | x :: rest, inj => by
      have others : (rest.map f).filter (fun b => !b == f x)
          = (rest.filter fun b => !b == x).map f := by
        rw [List.filter_map]
        apply congrArg (List.map f)
        apply List.filter_congr
        intro b hb
        by_cases h : b = x
        · simp [h]
        · have h' : f b ≠ f x := fun same => h (inj b (by simp [hb]) x (by simp) same)
          simp [h, h']
      rw [List.map_cons, List.eraseDups_cons, List.eraseDups_cons, others, List.map_cons,
        eraseDups_map fun a ha b hb => inj a (List.mem_cons_of_mem _ (List.mem_filter.mp ha).1)
          b (List.mem_cons_of_mem _ (List.mem_filter.mp hb).1)]
termination_by l => l.length
decreasing_by
  exact Nat.lt_succ_of_le (List.length_filter_le ..)

/-- The keys of nodes, each where it first comes, are numbered without gaps. -/
theorem eraseDups_keys (label : String) (all : List WrittenStyles) :
    (all.filterMap (keyIn label (styleSets all))).eraseDups
      = (List.range (styleSets all).length).map (entryKey label) := by
  rw [filterMap_keyIn, eraseDups_map, ← styleSets]
  · apply List.ext_getElem
    · simp
    · intro i _ _
      simp [(nodup_styleSets all).idxOf_getElem]
  · intro a ha b hb same
    rw [← List.mem_eraseDups, ← styleSets] at ha hb
    exact (List.idxOf_inj ha).mp (entryKey_inj same)

/-! ## Entries -/

structure WrittenEntry : Type where
  key : String
  declarations : WrittenStyles
deriving DecidableEq, Repr

def StyleEntry.written (e : StyleEntry) : WrittenEntry := ⟨e.key, Viewsmith.written e.declarations⟩

def numberedEntries (label : String) (sets : List WrittenStyles) : List WrittenEntry :=
  sets.mapIdx fun i s => ⟨entryKey label i, s⟩

theorem length_numberedEntries (label : String) (sets : List WrittenStyles) :
    (numberedEntries label sets).length = sets.length := by
  simp [numberedEntries]

theorem isEmpty_numberedEntries (label : String) (sets : List WrittenStyles) :
    (numberedEntries label sets).isEmpty = sets.isEmpty := by
  cases sets <;> simp [numberedEntries]

theorem numberedEntries_snoc (label : String) (sets : List WrittenStyles) (s : WrittenStyles) :
    numberedEntries label (sets ++ [s])
      = numberedEntries label sets ++ [⟨entryKey label sets.length, s⟩] := by
  simp [numberedEntries]

theorem declarations_numberedEntries (label : String) (sets : List WrittenStyles) :
    (numberedEntries label sets).map WrittenEntry.declarations = sets := by
  apply List.ext_getElem
  · simp [numberedEntries]
  · intro i _ _
    simp [numberedEntries]

theorem keys_numberedEntries (label : String) (sets : List WrittenStyles) :
    (numberedEntries label sets).map WrittenEntry.key
      = (List.range sets.length).map (entryKey label) := by
  apply List.ext_getElem
  · simp [numberedEntries]
  · intro i _ _
    simp [numberedEntries]

theorem nodup_keys_numberedEntries (label : String) (sets : List WrittenStyles) :
    ((numberedEntries label sets).map WrittenEntry.key).Nodup := by
  rw [keys_numberedEntries]
  exact List.nodup_range.map fun _ _ => entryKey_inj

theorem mem_numberedEntries {label : String} {sets : List WrittenStyles} (nodup : sets.Nodup)
    {e : WrittenEntry} :
    e ∈ numberedEntries label sets
      ↔ e.declarations ∈ sets ∧ e.key = entryKey label (sets.idxOf e.declarations) := by
  rw [numberedEntries, List.mem_mapIdx]
  constructor
  · rintro ⟨i, hi, rfl⟩
    exact ⟨List.getElem_mem hi, by rw [nodup.idxOf_getElem]⟩
  · rintro ⟨listed, key⟩
    refine ⟨sets.idxOf e.declarations, List.idxOf_lt_length_of_mem listed, ?_⟩
    rw [List.getElem_idxOf, ← key]

/-! ## Tables -/

namespace StyleTable

theorem register_of_isEmpty {t : StyleTable} {node : String} {ds : Declarations}
    (empty : ds.isEmpty = true) : t.register node ds = .ok ⟨none, t, []⟩ := by
  rw [register, if_pos empty]

/-- Registering fails on the first fault in the order of the properties and keeps the table. -/
theorem register_of_fault {t : StyleTable} {node property : String} {ds : Declarations}
    {fault : StyleFault} (first : firstFault? (sortDeclarations ds.entries) = some (property, fault)) :
    t.register node ds = .error ⟨⟨node, property, fault⟩, t⟩ := by
  have declared : ds.isEmpty = false := by
    rw [← Bool.not_eq_true]
    intro empty
    rw [OrderedMap.isEmpty, List.isEmpty_iff] at empty
    rw [empty] at first
    cases first
  rw [register, declared, if_neg Bool.false_ne_true]
  simp only [first]

end StyleTable

/-- Whether a table has the numbered entries of style sets, each row filed under the signature of
its own declarations. -/
structure StyleTable.Lists (t : StyleTable) (label : String) (sets : List WrittenStyles) : Prop where
  keyPrefix : t.keyPrefix = camelName label
  entries : t.entries.map StyleEntry.written = numberedEntries label sets
  filed : ∀ row ∈ t.rows.entries, row.1 = signature row.2.declarations

namespace StyleTable.Lists

variable {t : StyleTable} {label : String} {sets : List WrittenStyles}

theorem new (label : String) : (StyleTable.new label).Lists label [] where
  keyPrefix := rfl
  entries := rfl
  filed := by
    intro row h
    cases h

theorem size (h : t.Lists label sets) : t.size = sets.length := by
  have lengths := congrArg List.length h.entries
  rw [length_numberedEntries, List.length_map] at lengths
  rw [← lengths, StyleTable.size, StyleTable.entries, List.length_map]

theorem nextKey (h : t.Lists label sets) : t.nextKey = entryKey label sets.length := by
  rw [StyleTable.nextKey, h.keyPrefix, h.size, entryKey]

theorem declarations (h : t.Lists label sets) :
    t.entries.map (fun e => Viewsmith.written e.declarations) = sets := by
  have sameSets := congrArg (List.map WrittenEntry.declarations) h.entries
  rw [List.map_map, declarations_numberedEntries] at sameSets
  exact sameSets

theorem signature_mem_keys (h : t.Lists label sets) (ds : List (String × Literal)) :
    signature ds ∈ t.rows.entries.map Prod.fst ↔ written ds ∈ sets := by
  rw [← h.declarations, StyleTable.entries, List.map_map, List.mem_map, List.mem_map]
  constructor
  · rintro ⟨row, hrow, same⟩
    rw [h.filed row hrow, signature_eq_iff] at same
    exact ⟨row, hrow, same⟩
  · rintro ⟨row, hrow, same⟩
    exact ⟨row, hrow, (h.filed row hrow).trans (signature_eq_iff.mpr same)⟩

/-- An entry that is found is the one whose declarations are written the same way. -/
theorem key_of_find? (h : t.Lists label sets) (nodup : sets.Nodup) {ds : List (String × Literal)}
    {e : StyleEntry} (found : t.rows.find? (signature ds) = some e) :
    e.key = entryKey label (sets.idxOf (written ds)) := by
  have row := mem_of_lookupEntry found
  have same : written e.declarations = written ds :=
    signature_eq_iff.mp (h.filed _ row).symm
  have listed : e.written ∈ numberedEntries label sets := by
    rw [← h.entries]
    exact List.mem_map_of_mem (List.mem_map_of_mem (f := Prod.snd) row)
  rw [← same]
  exact ((mem_numberedEntries nodup).mp listed).2

/-- Declarations that a table did not have come after all rows. -/
theorem entries_insert (h : t.Lists label sets) {ds : List (String × Literal)}
    (fresh : written ds ∉ sets) (e : StyleEntry) :
    (t.rows.insert (signature ds) e).entries = t.rows.entries ++ [(signature ds, e)] := by
  exact OrderedMap.entries_insert_of_absent (mt (h.signature_mem_keys ds).mp fresh) e

/-- The table with an entry for declarations that it did not have. -/
theorem insert (h : t.Lists label sets) {ds : List (String × Literal)} (fresh : written ds ∉ sets) :
    StyleTable.Lists
      { t with rows := t.rows.insert (signature ds) ⟨t.nextKey, ds⟩ } label (sets ++ [written ds]) := by
  have rows := h.entries_insert fresh ⟨t.nextKey, ds⟩
  constructor
  · exact h.keyPrefix
  · rw [StyleTable.entries, rows, List.map_append, List.map_append, ← StyleTable.entries, h.entries,
      numberedEntries_snoc, h.nextKey]
    rfl
  · intro row hrow
    rw [rows, List.mem_append, List.mem_singleton] at hrow
    rcases hrow with old | rfl
    · exact h.filed row old
    · rfl

/-- Declarations whose style set is listed get the key of its entry. -/
theorem register_of_listed (h : t.Lists label sets) (nodup : sets.Nodup) {node : String}
    {ds : Declarations} (valid : firstFault? (sortDeclarations ds.entries) = none)
    (declared : ds.isEmpty = false) (listed : ds.styleSet ∈ sets) :
    t.register node ds = .ok ⟨some (entryKey label (sets.idxOf ds.styleSet)), t, []⟩ := by
  cases found : t.rows.find? (signature (sortDeclarations ds.entries)) with
  | none =>
      exact absurd ((h.signature_mem_keys _).mpr listed) (lookupEntry_eq_none.mp found)
  | some entry =>
      have key : entry.key = entryKey label (sets.idxOf ds.styleSet) := h.key_of_find? nodup found
      rw [StyleTable.register, declared, if_neg Bool.false_ne_true]
      simp only [valid, found, key]

/-- Declarations whose style set is not listed get an entry of their own, after all others. -/
theorem register_of_fresh (h : t.Lists label sets) {node : String} {ds : Declarations}
    (valid : firstFault? (sortDeclarations ds.entries) = none) (declared : ds.isEmpty = false)
    (fresh : ds.styleSet ∉ sets) :
    t.register node ds = .ok
      { key := some (entryKey label sets.length)
        table :=
          { t with
            rows := t.rows.insert (signature (sortDeclarations ds.entries))
              ⟨t.nextKey, sortDeclarations ds.entries⟩ }
        events := [.newStyle node (entryKey label sets.length)] } := by
  cases found : t.rows.find? (signature (sortDeclarations ds.entries)) with
  | some entry =>
      refine absurd ((h.signature_mem_keys _).mp ?_) fresh
      exact List.mem_map_of_mem (f := Prod.fst) (mem_of_lookupEntry found)
  | none =>
      rw [StyleTable.register, declared, if_neg Bool.false_ne_true]
      simp only [valid, found, h.nextKey]

/-- Registering declarations makes a table list their style set, and yields its key. -/
theorem register {all : List WrittenStyles} (h : t.Lists label (styleSets all)) {node : String}
    {ds : Declarations} {r : Registration} (registered : t.register node ds = .ok r) :
    r.table.Lists label (styleSets (all ++ [ds.styleSet])) ∧
      r.key = keyIn label (styleSets (all ++ [ds.styleSet])) ds.styleSet := by
  rw [styleSets_snoc]
  cases empty : ds.isEmpty with
  | true =>
      rw [register_of_isEmpty empty, Except.ok.injEq] at registered
      subst registered
      rw [ds.styleSet_eq_nil.mpr empty, if_pos (Or.inl rfl)]
      exact ⟨h, rfl⟩
  | false =>
      have declared : ds.styleSet ≠ [] := by
        rw [ne_eq, ds.styleSet_eq_nil, empty]
        exact Bool.false_ne_true
      cases valid : firstFault? (sortDeclarations ds.entries) with
      | some fault =>
          rw [register_of_fault valid] at registered
          cases registered
      | none =>
          by_cases known : ds.styleSet ∈ styleSets all
          · rw [h.register_of_listed (nodup_styleSets all) valid empty known,
              Except.ok.injEq] at registered
            subst registered
            rw [if_pos (Or.inr known), keyIn_of_ne_nil declared]
            exact ⟨h, rfl⟩
          · rw [h.register_of_fresh valid empty known, Except.ok.injEq] at registered
            subst registered
            rw [if_neg (not_or.mpr ⟨declared, known⟩), keyIn_of_ne_nil declared,
              List.idxOf_append_of_notMem known]
            exact ⟨h.insert known, by simp⟩

end StyleTable.Lists

end Viewsmith
