import Mathlib.Data.List.Basic
import Viewsmith.Proofs.Json.Changes

/-!
# Records as objects and as arrays

A record that is written as an object may be written as the array of what its fields hold, in the order
of the fields (`Respells`). A field that the object does not have is spelled as its default there, or is
left out if no later field is there. Both spellings are decoded alike (`settles_respells`): what an object
is read into says for each field which member it comes from (`ReadsFields`), and that member is the item
of the array.
-/

namespace Viewsmith.Json

/-! ## Two spellings -/

def IsAbsent (name : String) (members : List (Lexeme × Value)) : Prop :=
  ∀ m ∈ members, m.1.text ≠ .ok name

/-- Whether items spell the fields of an object in order, given the names of the fields and the meanings
of their defaults: each is the value of its member, or a value that means its default, and fields that
are absent may be left out at the end. Defaults have to keep the nesting limit. -/
inductive ListsFields (limit : Nat) (members : List (Lexeme × Value)) :
    List (String × Option Data) → List Value → Prop where
  | leftOut {row : List (String × Option Data)} (absent : ∀ d ∈ row, IsAbsent d.1 members) :
      ListsFields limit members row []
  | present {name : String} {default? : Option Data} {row : List (String × Option Data)}
      {key : Lexeme} {v : Value} {items : List Value} (spelled : key.text = .ok name)
      (inside : (key, v) ∈ members) (others : ListsFields limit members row items) :
      ListsFields limit members ((name, default?) :: row) (v :: items)
  | filled {name : String} {default : Data} {row : List (String × Option Data)} {v : Value}
      {text : List Char} {items : List Value} (absent : IsAbsent name members)
      (written : Writes v text) (meant : v.data limit = .ok default)
      (others : ListsFields limit members row items) :
      ListsFields limit members ((name, some default) :: row) (v :: items)

/-- The change of one object into an array, given the names and the defaults of the fields of records. -/
inductive Respells {ρ : Type} (defaults : ρ → List (String × Option Data)) (limit : Nat) (r : ρ) :
    Value → Value → Prop where
  | array {members : List (Lexeme × Value)} {items : List Value}
      (listed : ListsFields (limit - 1) members (defaults r) items) :
      Respells defaults limit r (.object members .closed) (.array items .closed)

section Texts

variable {ρ : Type} {defaults : ρ → List (String × Option Data)} {limit : Nat} {r : ρ} {v w : Value}

theorem Respells.ne_null (h : Respells defaults limit r v w) : v ≠ .null ∧ w ≠ .null := by
  cases h
  simp

theorem ListsFields.exists_writes {members : List (Lexeme × Value)}
    {row : List (String × Option Data)} {items : List Value}
    (h : ListsFields limit members row items)
    (written : ∀ m ∈ members, ∃ text, WritesMember Writes m text) :
    ∀ v ∈ items, ∃ text, Writes v text := by
  induction h with
  | leftOut _ => exact List.forall_mem_nil _
  | present _ inside _ ih =>
      obtain ⟨_, member⟩ := written _ inside
      cases member with
      | mk _ _ _ value => exact List.forall_mem_cons.mpr ⟨⟨_, value⟩, ih⟩
  | filled _ value _ _ ih => exact List.forall_mem_cons.mpr ⟨⟨_, value⟩, ih⟩

/-- The array has a text. -/
theorem Respells.exists_writes (h : Respells defaults limit r v w) :
    (∃ text, Writes v text) → ∃ text, Writes w text := by
  cases h with
  | array listed =>
      rw [exists_writes_object, exists_writes_array]
      exact listed.exists_writes

end Texts

/-! ## What members are read into -/

/-- What the members of an object say about a slot: the one member of its name holds what is in the
slot, and if the slot is empty there is none. -/
def ReadsField (limit : Nat) (members : List (Lexeme × Value)) (f : Field) : Option f.type → Prop
  | none => IsAbsent f.name members
  | some x => ∃ m ∈ members, m.1.text = .ok f.name ∧ f.decode limit m.2 = .ok x ∧
      ∀ n ∈ members, n.1.text = .ok f.name → n = m

def ReadsFields (limit : Nat) (members : List (Lexeme × Value)) : (fs : List Field) → Slots fs → Prop
  | [], _ => True
  | f :: fs, (slot, rest) => ReadsField limit members f slot ∧ ReadsFields limit members fs rest

section Slots

variable {limit : Nat} {f : Field} {fs : List Field} {members : List (Lexeme × Value)}
  {m : Lexeme × Value} {key : String}

theorem readsFields_empty (limit : Nat) (fs : List Field) :
    ReadsFields limit [] fs (Slots.empty fs) := by
  induction fs with
  | nil => trivial
  | cons f fs ih => exact ⟨List.forall_mem_nil _, ih⟩

theorem ReadsField.snoc_of_other {slot : Option f.type} (h : ReadsField limit members f slot)
    (spelled : m.1.text = .ok key) (other : f.name ≠ key) :
    ReadsField limit (members ++ [m]) f slot := by
  have different : m.1.text ≠ .ok f.name := by
    rw [spelled]
    exact fun same => other (Except.ok.inj same).symm
  cases slot with
  | none =>
      refine List.forall_mem_append.mpr ⟨h, List.forall_mem_singleton.mpr different⟩
  | some x =>
      obtain ⟨n, inside, named, decoded, only⟩ := h
      refine ⟨n, List.mem_append_left _ inside, named, decoded, List.forall_mem_append.mpr ⟨only, ?_⟩⟩
      exact List.forall_mem_singleton.mpr fun same => absurd same different

theorem ReadsFields.snoc_of_unknown {slots : Slots fs} (h : ReadsFields limit members fs slots)
    (spelled : m.1.text = .ok key) (unknown : key ∉ fs.map Field.name) :
    ReadsFields limit (members ++ [m]) fs slots := by
  induction fs with
  | nil => trivial
  | cons f fs ih =>
      rw [List.map_cons, List.mem_cons, not_or] at unknown
      obtain ⟨slot, rest⟩ := slots
      exact ⟨h.1.snoc_of_other spelled (Ne.symm unknown.1), ih h.2 unknown.2⟩

/-- What has been read says the same of one more member. -/
theorem ReadsFields.snoc (distinct : (fs.map Field.name).Nodup) {slots whole : Slots fs}
    (h : ReadsFields limit members fs slots) (spelled : m.1.text = .ok key)
    (read : Slots.read limit key m.2 fs slots = .ok whole) :
    ReadsFields limit (members ++ [m]) fs whole := by
  induction fs with
  | nil => trivial
  | cons f fs ih =>
      rw [List.map_cons, List.nodup_cons] at distinct
      obtain ⟨slot, rest⟩ := slots
      rcases read_cons_eq_ok.mp read with ⟨rfl, rfl, x, decoded, rfl⟩ | ⟨other, mid, inner, rfl⟩
      · refine ⟨⟨m, List.mem_append_right _ List.mem_cons_self, spelled, decoded, ?_⟩,
          h.2.snoc_of_unknown spelled distinct.1⟩
        refine List.forall_mem_append.mpr ⟨fun n hn same => absurd same (h.1 n hn), ?_⟩
        exact List.forall_mem_singleton.mpr fun _ => rfl
      · exact ⟨h.1.snoc_of_other spelled other, ih distinct.2 h.2 inner⟩

theorem ReadsFields.readAll (distinct : (fs.map Field.name).Nodup) {rest : List (Lexeme × Value)}
    {slots whole : Slots fs} (h : ReadsFields limit members fs slots)
    (read : Slots.readAll limit fs slots rest = .ok whole) :
    ReadsFields limit (members ++ rest) fs whole := by
  induction rest generalizing members slots with
  | nil =>
      cases read
      rwa [List.append_nil]
  | cons m rest ih =>
      obtain ⟨key, middle, spelled, first, later⟩ := readAll_cons_eq_ok.mp read
      rw [List.append_cons]
      exact ih (h.snoc distinct spelled first) later

end Slots

/-! ## Reading the array -/

/-- Whether a value that means something is decoded as the default of a field. -/
def Field.HasDefault (f : Field) (default? : Option Data) : Prop :=
  ∀ ⦃limit : Nat⦄ ⦃v : Value⦄, ∀ data ∈ default?, v.data limit = .ok data →
    ∃ x, f.default? = some x ∧ f.decode limit v = .ok x

/-- Whether a field has a name, and the default with a meaning. -/
structure FieldFilled (f : Field) (d : String × Option Data) : Prop where
  name : f.name = d.1
  default : f.HasDefault d.2

/-- A field that is required. -/
theorem FieldFilled.required {f : Field} {name : String} (named : f.name = name) :
    FieldFilled f (name, none) := ⟨named, fun _ _ _ none => by cases none⟩

theorem FieldFilled.of_meaning {f : Field} {name : String} {data : Data} (named : f.name = name)
    (default : ∀ limit v, v.data limit = .ok data →
      ∃ x, f.default? = some x ∧ f.decode limit v = .ok x) :
    FieldFilled f (name, some data) := by
  refine ⟨named, fun limit v other same meant => ?_⟩
  cases same
  exact default limit v meant

section Arrays

variable {limit : Nat} {fs : List Field} {members : List (Lexeme × Value)}
  {row : List (String × Option Data)}

/-- What is read from members is read from the items that spell the same fields. -/
theorem readItems_of_readsFields (fields : List.Forall₂ FieldFilled fs row) {slots : Slots fs}
    (reads : ReadsFields limit members fs slots) {xs : Fields fs}
    (complete : slots.complete fs = .ok xs) {items : List Value}
    (listed : ListsFields limit members row items) (expected : String) (count : Nat) :
    Fields.readItems limit expected .closed fs count items = .ok xs := by
  induction fields generalizing items count with
  | nil =>
      cases listed with
      | leftOut _ =>
          cases complete
          rfl
  | @cons f d fs row filled _ ih =>
      obtain ⟨slot, rest⟩ := slots
      obtain ⟨x, ys, held, others, rfl⟩ := complete_cons_eq_ok.mp complete
      obtain ⟨first, reads⟩ := reads
      -- A field that is absent has an empty slot, so its default is what it holds.
      have default_of_absent (absent : IsAbsent f.name members) : f.default? = some x := by
        cases slot with
        | none => exact held
        | some y =>
            obtain ⟨m, inside, named, -⟩ := first
            exact absurd named (absent m inside)
      cases listed with
      | leftOut absent =>
          rw [List.forall_mem_cons, ← filled.name] at absent
          rw [Fields.readItems, default_of_absent absent.1]
          show (Fields.readItems limit expected .closed fs (count + 1) [] >>= _) = _
          rw [ih reads others (.leftOut absent.2)]
          rfl
      | @present name _ _ key v items spelled inside listed =>
          cases slot with
          | none => exact absurd (filled.name ▸ spelled) (first _ inside)
          | some y =>
              obtain ⟨m, -, -, decoded, only⟩ := first
              cases held
              obtain rfl := only _ inside (filled.name ▸ spelled)
              rw [Fields.readItems, decoded]
              show (Fields.readItems limit expected .closed fs (count + 1) items >>= _) = _
              rw [ih reads others listed]
              rfl
      | @filled name data _ v _ items absent _ meant listed =>
          obtain ⟨y, default, decoded⟩ := filled.default data rfl meant
          rw [default_of_absent (filled.name ▸ absent)] at default
          cases default
          rw [Fields.readItems, decoded]
          show (Fields.readItems limit expected .closed fs (count + 1) items >>= _) = _
          rw [ih reads others listed]
          rfl

end Arrays

/-- A record is decoded from the array as it is from the object. -/
theorem settles_respells {ρ : Type} {defaults : ρ → List (String × Option Data)} {r : ρ} {what : String}
    {fs : List Field} {limit : Nat} {v w : Value} (fields : List.Forall₂ FieldFilled fs (defaults r))
    (distinct : (fs.map Field.name).Nodup) (h : Respells defaults limit r v w) :
    Settles none (record what fs) limit v w := by
  intro xs decoded
  cases h with
  | array listed =>
      obtain ⟨opened, slots, read, complete⟩ := record_object_eq_ok.mp decoded
      have reads := (readsFields_empty (limit - 1) fs).readAll distinct read
      rw [List.nil_append] at reads
      exact record_array_eq_ok.mpr
        ⟨opened, readItems_of_readsFields fields reads complete listed _ 0⟩

/-! ## Meanings of defaults -/

inductive Meaning (limit : Nat) : Value → Data → Prop where
  | null : Meaning limit .null .null
  | bool (b : Bool) : Meaning limit (.bool b) (.bool b)
  | number {numeral : Numeral} {n : Number} (value : numeral.value? = some n) :
      Meaning limit (.number numeral) (.number n)
  | string {l : Lexeme} {s : String} (spelled : l.text = .ok s) : Meaning limit (.string l) (.string s)
  | array {items : List Value} {data : List Data} (opened : 2 ≤ limit)
      (inside : itemsData (limit - 1) items = .ok data) :
      Meaning limit (.array items .closed) (.array data)
  | object {members : List (Lexeme × Value)} {data : List (String × Data)} (opened : 2 ≤ limit)
      (inside : membersData (limit - 1) members = .ok data) :
      Meaning limit (.object members .closed) (.object data)

section Meanings

variable {limit : Nat} {v : Value} {name : String}

theorem meaning_of_data {data : Data} (h : v.data limit = .ok data) : Meaning limit v data := by
  cases v with
  | null =>
      cases h
      exact .null
  | bool b =>
      cases h
      exact .bool b
  | number numeral =>
      rw [Value.data] at h
      split at h
      · rename_i value
        cases h
        exact .number value
      · cases h
  | string l =>
      rw [Value.data] at h
      cases spelled : l.text with
      | error e =>
          rw [spelled] at h
          cases h
      | ok s =>
          rw [spelled] at h
          cases h
          exact .string spelled
  | array items ending =>
      simp only [Value.data, bind_eq_ok, enter_eq_ok] at h
      obtain ⟨_, ⟨opened, rfl⟩, data, inside, _, closed, same⟩ := h
      obtain rfl := check_eq_ok.mp closed
      cases same
      exact .array opened inside
  | object members ending =>
      simp only [Value.data, bind_eq_ok, enter_eq_ok] at h
      obtain ⟨_, ⟨opened, rfl⟩, data, inside, _, closed, same⟩ := h
      obtain rfl := check_eq_ok.mp closed
      cases same
      exact .object opened inside
  | absent => cases h
  | cutNumeral => cases h
  | unreadable f => cases h

theorem filled_optional {α : Type} (decode : Decoder α) :
    FieldFilled ⟨name, Option α, optional decode, some none⟩ (name, some .null) := by
  refine .of_meaning rfl fun limit v meant => ?_
  cases meaning_of_data meant
  exact ⟨none, rfl, rfl⟩

theorem filled_sequence {α : Type} (decode : Decoder α) :
    FieldFilled ⟨name, List α, sequence decode, some []⟩ (name, some (.array [])) := by
  refine .of_meaning rfl fun limit v meant => ?_
  cases meaning_of_data meant with
  | @array items _ opened inside =>
      cases items with
      | nil =>
          refine ⟨[], rfl, ?_⟩
          simp only [sequence, enter_eq_ok.mpr ⟨opened, rfl⟩]
          rfl
      | cons v rest =>
          simp only [itemsData, bind_eq_ok] at inside
          obtain ⟨_, -, _, -, same⟩ := inside
          cases same

theorem filled_orderedMap {α : Type} (decode : Decoder α) :
    FieldFilled ⟨name, OrderedMap α, orderedMap decode, some .empty⟩ (name, some (.object [])) := by
  refine .of_meaning rfl fun limit v meant => ?_
  cases meaning_of_data meant with
  | @object members _ opened inside =>
      cases members with
      | nil =>
          refine ⟨.empty, rfl, ?_⟩
          simp only [orderedMap, enter_eq_ok.mpr ⟨opened, rfl⟩]
          rfl
      | cons m rest =>
          simp only [membersData, bind_eq_ok] at inside
          obtain ⟨_, -, _, -, _, -, same⟩ := inside
          cases same

theorem filled_oneOf {α : Type} (spell : α → String) (all : List α) (x : α)
    (first : all.find? (fun y => spell y = spell x) = some x) :
    FieldFilled ⟨name, α, oneOf spell all, some x⟩ (name, some (.string (spell x))) := by
  refine .of_meaning rfl fun limit v meant => ?_
  cases meaning_of_data meant with
  | string spelled =>
      refine ⟨x, rfl, ?_⟩
      simp only [oneOf, spelled, liftFault, bind, Except.bind, first]

theorem filled_string (s : String) :
    FieldFilled ⟨name, String, string, some s⟩ (name, some (.string s)) := by
  refine .of_meaning rfl fun limit v meant => ?_
  cases meaning_of_data meant with
  | string spelled =>
      refine ⟨s, rfl, ?_⟩
      simp only [string, spelled, liftFault]

theorem filled_boolean (b : Bool) :
    FieldFilled ⟨name, Bool, boolean, some b⟩ (name, some (.bool b)) := by
  refine .of_meaning rfl fun limit v meant => ?_
  cases meaning_of_data meant
  exact ⟨b, rfl, rfl⟩

theorem filled_size (n : Nat) :
    FieldFilled ⟨name, Nat, size, some n⟩ (name, some (.number (.natural n))) := by
  refine .of_meaning rfl fun limit v meant => ?_
  cases meaning_of_data meant with
  | number value =>
      refine ⟨n, rfl, ?_⟩
      simp only [size, value]

/-! ## A record of defaults -/

theorem membersData_cons_eq_ok {limit : Nat} {members : List (Lexeme × Value)} {key : String}
    {d : Data} {ms : List (String × Data)} :
    membersData limit members = .ok ((key, d) :: ms) ↔ ∃ m rest, members = m :: rest ∧
      m.1.text = .ok key ∧ m.2.data limit = .ok d ∧ membersData limit rest = .ok ms := by
  cases members with
  | nil => simp [membersData]
  | cons m rest =>
      simp only [membersData, bind_eq_ok]
      constructor
      · rintro ⟨_, spelled, _, meant, _, others, same⟩
        cases same
        exact ⟨m, rest, rfl, spelled, meant, others⟩
      · rintro ⟨_, _, same, spelled, meant, others⟩
        cases same
        exact ⟨key, spelled, d, meant, ms, others, rfl⟩

theorem ne_of_membersData {members : List (Lexeme × Value)} {ms : List (String × Data)}
    (meant : membersData limit members = .ok ms) (absent : name ∉ ms.map Prod.fst) :
    ∀ m ∈ members, m.1.text ≠ .ok name := by
  induction ms generalizing members with
  | nil =>
      cases members with
      | nil => exact List.forall_mem_nil _
      | cons m rest =>
          simp only [membersData, bind_eq_ok] at meant
          obtain ⟨_, -, _, -, _, -, same⟩ := meant
          cases same
  | cons d ms ih =>
      obtain ⟨m, rest, rfl, spelled, -, others⟩ := membersData_cons_eq_ok.mp meant
      rw [List.map_cons, List.mem_cons, not_or] at absent
      refine List.forall_mem_cons.mpr ⟨fun same => absent.1 ?_, ih others absent.2⟩
      rw [spelled] at same
      exact (Except.ok.inj same).symm

/-- An object that spells the default of every field is read as the object without members is. -/
theorem readAll_of_defaults {fs : List Field} {ms : List (String × Data)}
    (fields : List.Forall₂ (fun f m => FieldFilled f (m.1, some m.2)) fs ms)
    (distinct : (fs.map Field.name).Nodup) {members : List (Lexeme × Value)}
    (meant : membersData limit members = .ok ms) {xs : Fields fs}
    (empty : (Slots.empty fs).complete fs = .ok xs) :
    ∃ slots, Slots.readAll limit fs (Slots.empty fs) members = .ok slots ∧
      slots.complete fs = .ok xs := by
  induction fields generalizing members with
  | nil =>
      cases members with
      | nil => exact ⟨(), rfl, empty⟩
      | cons m rest =>
          simp only [membersData, bind_eq_ok] at meant
          obtain ⟨_, -, _, -, _, -, same⟩ := meant
          cases same
  | @cons f d fs ms filled others ih =>
      rw [List.map_cons, List.nodup_cons] at distinct
      obtain ⟨m, rest, rfl, spelled, first, later⟩ := membersData_cons_eq_ok.mp meant
      obtain ⟨x, default, decoded⟩ := filled.default d.2 rfl first
      obtain ⟨_, ys, held, vacant, rfl⟩ := complete_cons_eq_ok.mp empty
      rw [Option.none_or, default] at held
      cases held
      obtain ⟨slots, read, complete⟩ := ih distinct.2 later vacant
      rw [map_eq_map_of_forall₂ (others.imp fun _ _ filled => filled.name), filled.name] at distinct
      refine ⟨.cons (some x) slots, ?_, complete_cons_eq_ok.mpr ⟨x, ys, rfl, complete, rfl⟩⟩
      refine readAll_cons_eq_ok.mpr ⟨f.name, .cons (some x) (Slots.empty fs), filled.name ▸ spelled, ?_, ?_⟩
      · show Slots.read limit f.name m.2 (f :: fs) (.cons none (Slots.empty fs)) = _
        rw [read_of_name, decoded]
        rfl
      · rw [readAll_of_absent (filled.name ▸ ne_of_membersData later distinct.1), read]
        rfl

/-- A value that spells the default of every field of a record is decoded as the empty object is. -/
theorem record_of_defaults {what : String} {fs : List Field} {ms : List (String × Data)}
    (fields : List.Forall₂ (fun f m => FieldFilled f (m.1, some m.2)) fs ms)
    (distinct : (fs.map Field.name).Nodup) (meant : v.data limit = .ok (.object ms)) {xs : Fields fs}
    (empty : (Slots.empty fs).complete fs = .ok xs) : record what fs limit v = .ok xs := by
  cases meaning_of_data meant with
  | object opened inside =>
      exact record_object_eq_ok.mpr ⟨opened, readAll_of_defaults fields distinct inside empty⟩

/-- A group of fields that all have defaults, which is a field itself. -/
theorem filled_record {α : Type} {decode : Decoder α} {default : α} {what : String} {fs : List Field}
    {ms : List (String × Data)} {xs : Fields fs} {next : Fields fs → Decoded α}
    (decodes : ∀ limit v, decode limit v = record what fs limit v >>= next)
    (fields : List.Forall₂ (fun f m => FieldFilled f (m.1, some m.2)) fs ms)
    (distinct : (fs.map Field.name).Nodup) (empty : (Slots.empty fs).complete fs = .ok xs)
    (made : next xs = .ok default) :
    FieldFilled ⟨name, α, decode, some default⟩ (name, some (.object ms)) := by
  refine .of_meaning rfl fun limit v meant => ⟨default, rfl, ?_⟩
  show decode limit v = _
  rw [decodes, record_of_defaults fields distinct meant empty]
  exact made

end Meanings

end Viewsmith.Json
