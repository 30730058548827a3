import Mathlib.Data.List.Basic
import Viewsmith.Proofs.Json.Intact

/-!
# What is written is read

A text that writes a value is read as that value, whatever comes after it that does not go on like a
numeral (`reads_of_writes`). The entries of a list are read one at a time, and the lists of items and
of members are read alike: there is one lemma for each way in which a list goes on (`ReadsEntry.last`,
`ReadsEntry.more`). So the value of a document is read (`readPrefixValue_of_isDocument`).
-/

namespace Viewsmith.Json

theorem scanWord_append (v : Value) (rest : List Char) :
    ∀ word : List Char, scanWord v word (word ++ rest) = (v, some rest)
  | [] => rfl
  | c :: word => by rw [List.cons_append, scanWord, if_pos rfl, scanWord_append v rest word]

theorem reads_null : Reads "null".toList .null where
  start := ⟨'n', _, rfl, by decide⟩
  read := by
    intro fuel rest enough _
    obtain ⟨fuel, rfl⟩ : ∃ f, fuel = f + 1 := Nat.exists_eq_add_one.mpr (lt_of_lt_of_le (by decide) enough)
    exact scanWord_append .null rest ['u', 'l', 'l']

theorem reads_bool (b : Bool) : Reads (boolText b) (.bool b) := by
  cases b with
  | false =>
      refine ⟨⟨'f', _, rfl, by decide⟩, fun fuel rest enough _ => ?_⟩
      obtain ⟨fuel, rfl⟩ : ∃ f, fuel = f + 1 :=
        Nat.exists_eq_add_one.mpr (lt_of_lt_of_le (by decide) enough)
      exact scanWord_append (.bool false) rest ['a', 'l', 's', 'e']
  | true =>
      refine ⟨⟨'t', _, rfl, by decide⟩, fun fuel rest enough _ => ?_⟩
      obtain ⟨fuel, rfl⟩ : ∃ f, fuel = f + 1 :=
        Nat.exists_eq_add_one.mpr (lt_of_lt_of_le (by decide) enough)
      exact scanWord_append (.bool true) rest ['r', 'u', 'e']

mutual
/-- A text that writes a value is read as that value, whatever comes after it. -/
theorem reads_of_writes : ∀ {v : Value} {text : List Char}, Writes v text → Reads text v
  | _, _, .null => reads_null
  | _, _, .bool b => reads_bool b
  | _, _, .number numeral => reads_numeral numeral
  | _, _, .string literal => reads_string literal
  | _, _, .array entries => (readsItems_of_writes entries).array
  | _, _, .object entries => (readsMembers_of_writes entries).object

theorem readsItems_of_writes : ∀ {items : List Value} {text : List Char}, WritesList Writes items text →
    ReadsInside ']' readItems text items
  | _, _, .none blank => readsLists_items.none blank
  | _, _, .last front entry back =>
      (reads_of_writes entry).entry.last readsLists_items front back
  | _, _, .more front entry back later =>
      (reads_of_writes entry).entry.more readsLists_items front back (readsItems_of_writes later)

theorem readsMember_of_writes : ∀ {m : Lexeme × Value} {text : List Char}, WritesMember Writes m text →
    ReadsEntry '}' readMembers text m
  | _, _, .mk name front back entry => (reads_of_writes entry).member name front back

theorem readsMembers_of_writes : ∀ {members : List (Lexeme × Value)} {text : List Char},
    WritesList (WritesMember Writes) members text → ReadsInside '}' readMembers text members
  | _, _, .none blank => readsLists_members.none blank
  | _, _, .last front entry back =>
      (readsMember_of_writes entry).last readsLists_members front back
  | _, _, .more front entry back later =>
      (readsMember_of_writes entry).more readsLists_members front back (readsMembers_of_writes later)
end

/-- The value of a document is read, and what comes after it is blank. -/
theorem readPrefixValue_of_isDocument {v : Value} {text : List Char} (h : IsDocument v text) :
    ∃ rest, readPrefixValue text = (v, some rest) ∧ Blanks rest := by
  obtain ⟨before, inside, after, rfl, front, back, writes⟩ := h
  refine ⟨after, ?_, back⟩
  have ends : EndsNumeral after := by
    have none := endsNumeral_blanks back endsNumeral_nil
    rwa [List.append_nil] at none
  rw [readPrefixValue, readValue_blanks front]
  apply (reads_of_writes writes).read _ after _ ends
  simp only [List.length_append]
  omega

/-- A text is a document of one value only. -/
theorem IsDocument.unique {v w : Value} {text : List Char} (hv : IsDocument v text)
    (hw : IsDocument w text) : v = w := by
  obtain ⟨_, first, -⟩ := readPrefixValue_of_isDocument hv
  obtain ⟨_, second, -⟩ := readPrefixValue_of_isDocument hw
  rw [first] at second
  exact (Prod.mk.inj second).1

/-! ## What the encoder writes -/

/-- An array whose items are written is written. -/
theorem writes_arrayText {texts : List (List Char)} {values : List Value}
    (entries : List.Forall₂ Writes values texts) : Writes (.array values .closed) (arrayText texts) :=
  .array (writesList_intercalate entries)

/-- An object whose members are written is written. -/
theorem writes_objectText {members : List (String × List Char)} {values : List (Lexeme × Value)}
    (entries : List.Forall₂ (fun v m => v.1 = lexemeOf m.1 ∧ Writes v.2 m.2) values members) :
    Writes (.object values .closed) (objectText members) := by
  refine .object (writesList_intercalate (List.forall₂_map_right_iff.mpr (entries.imp ?_)))
  rintro ⟨key, v⟩ m ⟨rfl, written⟩
  exact .mk (writesString_quoted m.1) blanks_nil blanks_nil written

/-- The text of a value is a document of it. -/
theorem isDocument_ofList {v : Value} {text : List Char} (h : Writes v text) :
    IsDocument v (String.ofList text).toList := by
  refine ⟨[], text, [], ?_, blanks_nil, blanks_nil, h⟩
  rw [String.toList_ofList, List.nil_append, List.append_nil]

/-! ## What is written is intact -/

theorem skip_of_writesString {l : Lexeme} {text : List Char} (h : WritesString l text) :
    l.skip = .ok () := by
  cases h
  rfl

mutual
/-- A value that has a text can be passed over. -/
theorem skip_of_writes : ∀ {v : Value} {text : List Char}, Writes v text → v.skip = .ok ()
  | _, _, .null => rfl
  | _, _, .bool _ => rfl
  | _, _, .number _ => rfl
  | _, _, .string literal => skip_of_writesString literal
  | _, _, .array entries => skip_array.mpr ⟨skip_of_writesItems entries, rfl⟩
  | _, _, .object entries => skip_object.mpr ⟨skip_of_writesMembers entries, rfl⟩

theorem skip_of_writesItems : ∀ {items : List Value} {text : List Char}, WritesList Writes items text →
    ∀ v ∈ items, v.skip = .ok ()
  | _, _, .none _ => List.forall_mem_nil _
  | _, _, .last _ entry _ => List.forall_mem_singleton.mpr (skip_of_writes entry)
  | _, _, .more _ entry _ later =>
      List.forall_mem_cons.mpr ⟨skip_of_writes entry, skip_of_writesItems later⟩

theorem skip_of_writesMember : ∀ {m : Lexeme × Value} {text : List Char}, WritesMember Writes m text →
    m.1.skip = .ok () ∧ m.2.skip = .ok ()
  | _, _, .mk name _ _ entry => ⟨skip_of_writesString name, skip_of_writes entry⟩

theorem skip_of_writesMembers : ∀ {members : List (Lexeme × Value)} {text : List Char},
    WritesList (WritesMember Writes) members text → ∀ m ∈ members, m.1.skip = .ok () ∧ m.2.skip = .ok ()
  | _, _, .none _ => List.forall_mem_nil _
  | _, _, .last _ entry _ => List.forall_mem_singleton.mpr (skip_of_writesMember entry)
  | _, _, .more _ entry _ later =>
      List.forall_mem_cons.mpr ⟨skip_of_writesMember entry, skip_of_writesMembers later⟩
end

end Viewsmith.Json
