import Mathlib.Data.List.Basic
import Viewsmith.Proofs.Json.Decoding

/-!
# What is decoded can be passed over

A reader that passes over a value asks for less than any decoder: a value that is decoded as anything
is one that can be passed over (`Intact`). So nothing is decoded that the text breaks off or garbles.
There is one lemma for each way of putting decoders together.
-/

namespace Viewsmith.Json

/-! ## Outcomes -/

theorem bind_eq_ok {ε α β : Type} {x : Except ε α} {f : α → Except ε β} {y : β} :
    (x >>= f) = .ok y ↔ ∃ a, x = .ok a ∧ f a = .ok y := by
  cases x with
  | error e => simp [bind, Except.bind]
  | ok a => simp [bind, Except.bind]

theorem liftFault_eq_ok {α : Type} {x : Except Fault α} {a : α} :
    liftFault x = .ok a ↔ x = .ok a := by
  cases x <;> simp [liftFault]

theorem wrongKind_ne_ok {α : Type} {expected : String} {v : Value} {x : α} :
    wrongKind expected v ≠ .ok x := by
  unfold wrongKind
  dsimp only
  split <;> simp

/-! ## Passing over values -/

theorem check_eq_ok {ending : Ending} : ending.check = .ok () ↔ ending = .closed := by
  cases ending <;> simp [Ending.check]

theorem skip_eq_ok {l : Lexeme} : l.skip = .ok () ↔ l.fault = none := by
  rw [Lexeme.skip]
  split <;> simp [*]

theorem skipItems_eq_ok {items : List Value} :
    skipItems items = .ok () ↔ ∀ v ∈ items, v.skip = .ok () := by
  induction items with
  | nil => simp [skipItems]
  | cons v rest ih =>
      rw [skipItems, bind_eq_ok, List.forall_mem_cons, ← ih]
      exact ⟨fun ⟨(), first, others⟩ => ⟨first, others⟩, fun ⟨first, others⟩ => ⟨(), first, others⟩⟩

theorem skipMembers_eq_ok {members : List (Lexeme × Value)} :
    skipMembers members = .ok () ↔ ∀ m ∈ members, m.1.skip = .ok () ∧ m.2.skip = .ok () := by
  induction members with
  | nil => simp [skipMembers]
  | cons m rest ih =>
      obtain ⟨key, v⟩ := m
      rw [skipMembers, List.forall_mem_cons, ← ih]
      simp only [bind_eq_ok]
      exact ⟨fun ⟨(), name, (), value, others⟩ => ⟨⟨name, value⟩, others⟩,
        fun ⟨⟨name, value⟩, others⟩ => ⟨(), name, (), value, others⟩⟩

theorem skip_array {items : List Value} {ending : Ending} :
    (Value.array items ending).skip = .ok () ↔
      (∀ v ∈ items, v.skip = .ok ()) ∧ ending = .closed := by
  rw [Value.skip, bind_eq_ok, ← skipItems_eq_ok, ← check_eq_ok]
  exact ⟨fun ⟨(), inside, closed⟩ => ⟨inside, closed⟩, fun ⟨inside, closed⟩ => ⟨(), inside, closed⟩⟩

theorem skip_object {members : List (Lexeme × Value)} {ending : Ending} :
    (Value.object members ending).skip = .ok () ↔
      (∀ m ∈ members, m.1.skip = .ok () ∧ m.2.skip = .ok ()) ∧ ending = .closed := by
  rw [Value.skip, bind_eq_ok, ← skipMembers_eq_ok, ← check_eq_ok]
  exact ⟨fun ⟨(), inside, closed⟩ => ⟨inside, closed⟩, fun ⟨inside, closed⟩ => ⟨(), inside, closed⟩⟩

/-! ## Values of scalars -/

/-- A string literal that breaks off spells nothing. -/
theorem fault_of_spell {fault : Option Fault} {pieces : List Piece} {text : List Char}
    (spelled : spell fault pieces = .ok text) : fault = none := by
  fun_induction spell fault pieces generalizing text with
  | case1 none => exact none
  | case3 c rest ih | case5 n _ _ m rest _ ih | case9 n rest _ _ ih =>
      cases shape : spell fault rest with
      | error e =>
          rw [shape] at spelled
          cases spelled
      | ok others => exact ih shape
  | _ => cases spelled

theorem skip_of_text {l : Lexeme} {s : String} (spelled : l.text = .ok s) : l.skip = .ok () := by
  rw [skip_eq_ok]
  rw [Lexeme.text] at spelled
  cases shape : spell l.fault l.pieces with
  | error e =>
      rw [shape] at spelled
      cases spelled
  | ok text => exact fault_of_spell shape

mutual
/-- A value that is read for its meaning can be passed over. -/
theorem skip_of_data : ∀ {v : Value} {limit : Nat} {data : Data}, v.data limit = .ok data →
    v.skip = .ok ()
  | .null, _, _, _ => rfl
  | .bool _, _, _, _ => rfl
  | .number _, _, _, _ => rfl
  | .string l, _, _, read => by
      rw [Value.data] at read
      cases shape : l.text with
      | error e =>
          rw [shape] at read
          cases read
      | ok s => exact skip_of_text shape
  | .array items ending, _, _, read => by
      simp only [Value.data, bind_eq_ok] at read
      obtain ⟨inner, -, data, inside, _, closed, -⟩ := read
      exact skip_array.mpr ⟨skip_of_itemsData inside, check_eq_ok.mp closed⟩
  | .object members ending, _, _, read => by
      simp only [Value.data, bind_eq_ok] at read
      obtain ⟨inner, -, data, inside, _, closed, -⟩ := read
      exact skip_object.mpr ⟨skip_of_membersData inside, check_eq_ok.mp closed⟩

theorem skip_of_itemsData : ∀ {items : List Value} {limit : Nat} {data : List Data},
    itemsData limit items = .ok data → ∀ v ∈ items, v.skip = .ok ()
  | [], _, _, _ => List.forall_mem_nil _
  | v :: rest, _, _, read => by
      simp only [itemsData, bind_eq_ok] at read
      obtain ⟨item, first, items, others, -⟩ := read
      exact List.forall_mem_cons.mpr ⟨skip_of_data first, skip_of_itemsData others⟩

theorem skip_of_membersData : ∀ {members : List (Lexeme × Value)} {limit : Nat}
    {data : List (String × Data)}, membersData limit members = .ok data →
      ∀ m ∈ members, m.1.skip = .ok () ∧ m.2.skip = .ok ()
  | [], _, _, _ => List.forall_mem_nil _
  | (key, v) :: rest, _, _, read => by
      simp only [membersData, bind_eq_ok] at read
      obtain ⟨name, spelled, item, first, members, others, -⟩ := read
      exact List.forall_mem_cons.mpr
        ⟨⟨skip_of_text spelled, skip_of_data first⟩, skip_of_membersData others⟩
end

/-! ## Decoders -/

/-- Whether what a decoder accepts can be passed over. -/
def Intact {α : Type} (decode : Decoder α) : Prop :=
  ∀ ⦃limit : Nat⦄ ⦃v : Value⦄ ⦃x : α⦄, decode limit v = .ok x → v.skip = .ok ()

section Decoders

variable {α β : Type} {decode : Decoder α}

theorem intact_string : Intact string := by
  intro limit v s decoded
  unfold string at decoded
  split at decoded
  · exact skip_of_text (liftFault_eq_ok.mp decoded)
  · exact absurd decoded wrongKind_ne_ok

theorem intact_boolean : Intact boolean := by
  intro limit v b decoded
  unfold boolean at decoded
  split at decoded
  · rfl
  · exact absurd decoded wrongKind_ne_ok

theorem intact_size : Intact size := by
  intro limit v n decoded
  unfold size at decoded
  split at decoded
  · rfl
  · exact absurd decoded wrongKind_ne_ok

theorem intact_oneOf (name : α → String) (all : List α) : Intact (oneOf name all) := by
  intro limit v x decoded
  unfold oneOf at decoded
  dsimp only at decoded
  split at decoded
  · obtain ⟨s, spelled, -⟩ := bind_eq_ok.mp decoded
    exact skip_of_text (liftFault_eq_ok.mp spelled)
  · obtain ⟨inner, -, decoded⟩ := bind_eq_ok.mp decoded
    split at decoded
    · cases decoded
    · cases decoded
    · rename_i key value more ending
      obtain ⟨y, named, decoded⟩ := bind_eq_ok.mp decoded
      obtain ⟨s, spelled, -⟩ := bind_eq_ok.mp named
      split at decoded
      · split at decoded
        · refine skip_object.mpr ⟨List.forall_mem_singleton.mpr ⟨?_, rfl⟩, rfl⟩
          exact skip_of_text (liftFault_eq_ok.mp spelled)
        · cases decoded
        · cases decoded
      · obtain ⟨_, unit, -⟩ := bind_eq_ok.mp decoded
        exact absurd unit wrongKind_ne_ok
  · cases decoded
  · cases decoded

theorem Intact.bind (h : Intact decode) (next : α → Decoded β) :
    Intact fun limit v => decode limit v >>= next := by
  intro limit v y decoded
  obtain ⟨x, decoded, -⟩ := bind_eq_ok.mp decoded
  exact h decoded

theorem Intact.optional (h : Intact decode) : Intact (optional decode) := by
  intro limit v x decoded
  unfold Json.optional at decoded
  split at decoded
  · rfl
  · cases inside : decode limit v with
    | error e =>
        rw [inside] at decoded
        cases decoded
    | ok y => exact h inside

theorem Intact.items (h : Intact decode) {limit : Nat} {items : List Value} {xs : List α}
    (decoded : items.mapM (decode limit) = .ok xs) : ∀ v ∈ items, v.skip = .ok () := by
  induction items generalizing xs with
  | nil => exact List.forall_mem_nil _
  | cons v rest ih =>
      simp only [List.mapM_cons, bind_eq_ok] at decoded
      obtain ⟨x, first, others, later, -⟩ := decoded
      exact List.forall_mem_cons.mpr ⟨h first, ih later⟩

theorem Intact.sequence (h : Intact decode) : Intact (sequence decode) := by
  intro limit v xs decoded
  unfold Json.sequence at decoded
  split at decoded
  · simp only [bind_eq_ok, liftFault_eq_ok] at decoded
    obtain ⟨inner, -, xs, inside, _, closed, -⟩ := decoded
    exact skip_array.mpr ⟨h.items inside, check_eq_ok.mp closed⟩
  · exact absurd decoded wrongKind_ne_ok

theorem Intact.mapMembers (h : Intact decode) {limit : Nat} {members : List (Lexeme × Value)}
    {m whole : OrderedMap α} (decoded : mapMembers (decode limit) m members = .ok whole) :
    ∀ m ∈ members, m.1.skip = .ok () ∧ m.2.skip = .ok () := by
  induction members generalizing m with
  | nil => exact List.forall_mem_nil _
  | cons member rest ih =>
      simp only [Json.mapMembers, bind_eq_ok, liftFault_eq_ok] at decoded
      obtain ⟨key, spelled, x, first, later⟩ := decoded
      exact List.forall_mem_cons.mpr ⟨⟨skip_of_text spelled, h first⟩, ih later⟩

theorem Intact.orderedMap (h : Intact decode) : Intact (orderedMap decode) := by
  intro limit v m decoded
  unfold Json.orderedMap at decoded
  split at decoded
  · simp only [bind_eq_ok, liftFault_eq_ok] at decoded
    obtain ⟨inner, -, m, inside, _, closed, -⟩ := decoded
    exact skip_object.mpr ⟨h.mapMembers inside, check_eq_ok.mp closed⟩
  · exact absurd decoded wrongKind_ne_ok

end Decoders

/-! ## Records -/

section Records

variable {fs : List Field} {limit : Nat}

theorem skip_of_readItems (fields : ∀ f ∈ fs, Intact f.decode) {expected : String} {ending : Ending}
    {count : Nat} {items : List Value} {xs : Fields fs}
    (read : Fields.readItems limit expected ending fs count items = .ok xs) :
    (∀ v ∈ items, v.skip = .ok ()) ∧ ending = .closed := by
  induction fs generalizing count items with
  | nil =>
      unfold Fields.readItems at read
      split at read
      · exact ⟨List.forall_mem_nil _, rfl⟩
      · cases read
      · cases read
  | cons f fs ih =>
      rw [List.forall_mem_cons] at fields
      cases items with
      | nil =>
          rw [Fields.readItems] at read
          obtain ⟨_, closed, -⟩ := bind_eq_ok.mp read
          exact ⟨List.forall_mem_nil _, check_eq_ok.mp (liftFault_eq_ok.mp closed)⟩
      | cons v items =>
          rw [Fields.readItems] at read
          obtain ⟨x, first, read⟩ := bind_eq_ok.mp read
          obtain ⟨rest, others, -⟩ := bind_eq_ok.mp read
          obtain ⟨later, closed⟩ := ih fields.2 others
          exact ⟨List.forall_mem_cons.mpr ⟨fields.1 first, later⟩, closed⟩

theorem intact_tuple (what : String) (fields : ∀ f ∈ fs, Intact f.decode) :
    Intact (tuple what fs) := by
  intro limit v xs decoded
  unfold tuple at decoded
  split at decoded
  · obtain ⟨inner, -, read⟩ := bind_eq_ok.mp decoded
    exact skip_array.mpr (skip_of_readItems fields read)
  · exact absurd decoded wrongKind_ne_ok

theorem skip_of_read (fields : ∀ f ∈ fs, Intact f.decode) {key : String} {v : Value}
    {slots slots' : Slots fs} (read : Slots.read limit key v fs slots = .ok slots') :
    v.skip = .ok () := by
  induction fs with
  | nil => exact liftFault_eq_ok.mp read
  | cons f fs ih =>
      rw [List.forall_mem_cons] at fields
      rcases read_cons_eq_ok.mp read with ⟨-, -, x, decoded, -⟩ | ⟨-, rest, others, -⟩
      · exact fields.1 decoded
      · exact ih fields.2 others

theorem skip_of_readAll (fields : ∀ f ∈ fs, Intact f.decode) {members : List (Lexeme × Value)}
    {slots slots' : Slots fs} (read : Slots.readAll limit fs slots members = .ok slots') :
    ∀ m ∈ members, m.1.skip = .ok () ∧ m.2.skip = .ok () := by
  induction members generalizing slots with
  | nil => exact List.forall_mem_nil _
  | cons m rest ih =>
      simp only [Slots.readAll, bind_eq_ok, liftFault_eq_ok] at read
      obtain ⟨key, spelled, slots, first, later⟩ := read
      exact List.forall_mem_cons.mpr ⟨⟨skip_of_text spelled, skip_of_read fields first⟩, ih later⟩

theorem intact_record (what : String) (fields : ∀ f ∈ fs, Intact f.decode) :
    Intact (record what fs) := by
  intro limit v xs decoded
  unfold record at decoded
  split at decoded
  · simp only [bind_eq_ok, liftFault_eq_ok] at decoded
    obtain ⟨inner, -, slots, inside, _, closed, -⟩ := decoded
    exact skip_object.mpr ⟨skip_of_readAll fields inside, check_eq_ok.mp closed⟩
  · exact intact_tuple what fields decoded

end Records

end Viewsmith.Json
