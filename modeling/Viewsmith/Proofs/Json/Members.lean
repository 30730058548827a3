import Viewsmith.Proofs.Json.Changes

/-!
# What decoded things are made of

Where a decoder of a list, a map or a record succeeds, the items, the entries and the fields are what their own
decoders make of values in the document (`sequence_eq_ok`, `orderedMap_eq_ok`, `madeOf_record`). A map takes the
last member with a key, a field of a record is a member or an item.
-/

namespace Viewsmith.Json

/-! ## Places of values -/

/-- The value of the last member with a name. -/
def memberValue? (name : String) : List (Lexeme × Value) → Option Value
  | [] => none
  | (key, v) :: rest => (memberValue? name rest).or (if key.text = .ok name then some v else none)

def Value.member? (v : Value) (name : String) : Option Value :=
  match v with
  | .object members _ => memberValue? name members
  | _ => none

def Value.item? (v : Value) (i : Nat) : Option Value :=
  match v with
  | .array items _ => items[i]?
  | _ => none

/-- A field of a record: a member of an object, or an item of an array. -/
def Value.field? (v : Value) (i : Nat) (name : String) : Option Value := (v.member? name).or (v.item? i)

theorem memberValue?_append (name : String) (before after : List (Lexeme × Value)) :
    memberValue? name (before ++ after) = (memberValue? name after).or (memberValue? name before) := by
  induction before with
  | nil => rw [List.nil_append, memberValue?, Option.or_none]
  | cons m rest ih => rw [List.cons_append, memberValue?, ih, memberValue?, Option.or_assoc]

section Lists

variable {α : Type} {decode : Decoder α} {limit : Nat}

/-! ## Lists and maps -/

theorem forall₂_of_mapM {decode : Value → Decoded α} {items : List Value} {xs : List α}
    (made : items.mapM decode = .ok xs) : List.Forall₂ (fun v x => decode v = .ok x) items xs := by
  induction items generalizing xs with
  | nil =>
      cases made
      exact .nil
  | cons v rest ih =>
      simp only [List.mapM_cons, bind_eq_ok] at made
      obtain ⟨x, first, others, later, same⟩ := made
      cases same
      exact .cons first (ih later)

theorem sequence_eq_ok {v : Value} {xs : List α} (decoded : sequence decode limit v = .ok xs) :
    2 ≤ limit ∧ ∃ items, v = .array items .closed ∧
      List.Forall₂ (fun w x => decode (limit - 1) w = .ok x) items xs := by
  unfold sequence at decoded
  split at decoded
  · simp only [bind_eq_ok, liftFault_eq_ok] at decoded
    obtain ⟨inner, entered, ys, made, ⟨⟩, closed, same⟩ := decoded
    obtain ⟨opened, rfl⟩ := enter_eq_ok.mp entered
    cases same
    rw [check_eq_ok.mp closed]
    exact ⟨opened, _, rfl, forall₂_of_mapM made⟩
  · exact absurd decoded wrongKind_ne_ok

theorem find?_of_mapMembers {decode : Value → Decoded α} {members : List (Lexeme × Value)}
    {m whole : OrderedMap α} (made : mapMembers decode m members = .ok whole) (name : String) :
    (memberValue? name members = none ∧ whole.find? name = m.find? name) ∨
      ∃ w x, memberValue? name members = some w ∧ decode w = .ok x ∧ whole.find? name = some x := by
  induction members generalizing m with
  | nil =>
      cases made
      exact Or.inl ⟨rfl, rfl⟩
  | cons member rest ih =>
      obtain ⟨key, v⟩ := member
      simp only [mapMembers, bind_eq_ok, liftFault_eq_ok] at made
      obtain ⟨k, spelled, x, first, later⟩ := made
      rw [memberValue?, spelled]
      rcases ih later with ⟨none, same⟩ | ⟨w, y, found, decoded, same⟩
      · rw [none, Option.none_or, same, OrderedMap.find?_insert]
        by_cases named : k = name
        · rw [if_pos (congrArg Except.ok named), if_pos named]
          exact Or.inr ⟨v, x, rfl, first, rfl⟩
        · rw [if_neg fun same => named (Except.ok.inj same), if_neg named]
          exact Or.inl ⟨rfl, rfl⟩
      · rw [found, Option.some_or]
        exact Or.inr ⟨w, y, rfl, decoded, same⟩

/-- Every key of a map has what the last member with the key is decoded to. -/
theorem orderedMap_eq_ok {v : Value} {m : OrderedMap α} (decoded : orderedMap decode limit v = .ok m) :
    2 ≤ limit ∧
      ∀ name, Option.Rel (fun w x => decode (limit - 1) w = .ok x) (v.member? name) (m.find? name) := by
  unfold orderedMap at decoded
  split at decoded
  · simp only [bind_eq_ok, liftFault_eq_ok] at decoded
    obtain ⟨inner, entered, whole, made, ⟨⟩, closed, same⟩ := decoded
    obtain ⟨opened, rfl⟩ := enter_eq_ok.mp entered
    cases same
    refine ⟨opened, fun name => ?_⟩
    rw [Value.member?]
    rcases find?_of_mapMembers made name with ⟨none, same⟩ | ⟨w, x, found, decoded, same⟩
    · rw [none, same]
      exact .none
    · rw [found, same]
      exact .some decoded
  · exact absurd decoded wrongKind_ne_ok

end Lists

/-! ## Records -/

/-- Whether the fields of a record are decoded from its values, or have their defaults. -/
def Fields.MadeOf (limit : Nat) (v : Value) : Nat → (fs : List Field) → Fields fs → Prop
  | _, [], () => True
  | i, f :: fs, (x, xs) =>
      ((∃ w, v.field? i f.name = some w ∧ f.decode limit w = .ok x) ∨
        (v.field? i f.name = none ∧ f.default? = some x)) ∧ Fields.MadeOf limit v (i + 1) fs xs

/-- Whether slots hold what the members of their fields are decoded to. -/
def Slots.MadeOf (limit : Nat) (members : List (Lexeme × Value)) : (fs : List Field) → Slots fs → Prop
  | [], () => True
  | f :: fs, (slot, slots) =>
      Option.Rel (fun w x => f.decode limit w = .ok x) (memberValue? f.name members) slot ∧
        Slots.MadeOf limit members fs slots

section Records

variable {limit : Nat} {fs : List Field}

theorem madeOf_empty : Slots.MadeOf limit [] fs (Slots.empty fs) := by
  induction fs with
  | nil => trivial
  | cons f fs ih => exact ⟨.none, ih⟩

/-- Members with other names do not matter to the slots. -/
theorem Slots.MadeOf.of_absent {members : List (Lexeme × Value)} {m : Lexeme × Value} {slots : Slots fs}
    (h : Slots.MadeOf limit members fs slots) (absent : ∀ f ∈ fs, m.1.text ≠ .ok f.name) :
    Slots.MadeOf limit (members ++ [m]) fs slots := by
  induction fs with
  | nil => trivial
  | cons f fs ih =>
      rw [List.forall_mem_cons] at absent
      refine ⟨?_, ih h.2 absent.2⟩
      rw [memberValue?_append, memberValue?, memberValue?, if_neg absent.1]
      exact h.1

theorem Slots.MadeOf.read {members : List (Lexeme × Value)} {m : Lexeme × Value} {name : String}
    {slots whole : Slots fs} (h : Slots.MadeOf limit members fs slots) (spelled : m.1.text = .ok name)
    (distinct : (fs.map Field.name).Nodup) (read : Slots.read limit name m.2 fs slots = .ok whole) :
    Slots.MadeOf limit (members ++ [m]) fs whole := by
  induction fs with
  | nil => trivial
  | cons f fs ih =>
      obtain ⟨slot, slots⟩ := slots
      rw [List.map_cons, List.nodup_cons] at distinct
      rcases read_cons_eq_ok.mp read with ⟨rfl, -, x, decoded, rfl⟩ | ⟨other, rest, inner, rfl⟩
      · refine ⟨?_, h.2.of_absent fun g hg same => distinct.1 ?_⟩
        · rw [memberValue?_append, memberValue?, memberValue?, if_pos spelled]
          exact .some decoded
        · rw [Except.ok.inj (spelled.symm.trans same)]
          exact List.mem_map_of_mem hg
      · refine ⟨?_, ih h.2 distinct.2 inner⟩
        have absent : m.1.text ≠ .ok f.name :=
          fun same => other (Except.ok.inj (same.symm.trans spelled))
        rw [memberValue?_append, memberValue?, memberValue?, if_neg absent]
        exact h.1

theorem madeOf_readAll {members : List (Lexeme × Value)} {slots : Slots fs}
    (distinct : (fs.map Field.name).Nodup)
    (read : Slots.readAll limit fs (Slots.empty fs) members = .ok slots) :
    Slots.MadeOf limit members fs slots := by
  induction members using List.reverseRecOn generalizing slots with
  | nil =>
      cases read
      exact madeOf_empty
  | append_singleton before m ih =>
      obtain ⟨middle, first, last⟩ := readAll_append_eq_ok.mp read
      obtain ⟨name, whole, spelled, inner, same⟩ := readAll_cons_eq_ok.mp last
      cases same
      exact (ih first).read spelled distinct inner

theorem Slots.MadeOf.complete {members : List (Lexeme × Value)} {ending : Ending} {slots : Slots fs}
    {xs : Fields fs} (h : Slots.MadeOf limit members fs slots) (complete : slots.complete fs = .ok xs)
    (i : Nat) : Fields.MadeOf limit (.object members ending) i fs xs := by
  induction fs generalizing i with
  | nil => trivial
  | cons f fs ih =>
      obtain ⟨slot, slots⟩ := slots
      obtain ⟨x, rest, filled, others, rfl⟩ := complete_cons_eq_ok.mp complete
      refine ⟨?_, ih h.2 others (i + 1)⟩
      have found : Value.field? (.object members ending) i f.name = memberValue? f.name members :=
        Option.or_none
      rw [found]
      have made := h.1
      generalize memberValue? f.name members = value? at made ⊢
      cases made with
      | none => exact Or.inr ⟨rfl, filled⟩
      | some decoded =>
          obtain rfl := Option.some.inj filled
          exact Or.inl ⟨_, rfl, decoded⟩

theorem madeOf_readItems {v : Value} {expected : String} {ending : Ending} {items : List Value} {i : Nat}
    {xs : Fields fs} (read : Fields.readItems limit expected ending fs i items = .ok xs)
    (same : ∀ k name, v.field? (i + k) name = items[k]?) : Fields.MadeOf limit v i fs xs := by
  induction fs generalizing i items with
  | nil => trivial
  | cons f fs ih =>
      cases items with
      | nil =>
          rw [Fields.readItems] at read
          obtain ⟨-, -, read⟩ := bind_eq_ok.mp read
          split at read
          · cases read
          · rename_i x default
            obtain ⟨rest, later, whole⟩ := bind_eq_ok.mp read
            cases whole
            refine ⟨Or.inr ⟨same 0 f.name, default⟩, ih later fun k name => ?_⟩
            rw [Nat.add_assoc]
            exact same (1 + k) name
      | cons w items =>
          rw [Fields.readItems] at read
          obtain ⟨x, decoded, read⟩ := bind_eq_ok.mp read
          obtain ⟨rest, later, whole⟩ := bind_eq_ok.mp read
          cases whole
          refine ⟨Or.inl ⟨w, same 0 f.name, decoded⟩, ih later fun k name => ?_⟩
          rw [Nat.add_assoc, same, Nat.add_comm, List.getElem?_cons_succ]

/-- The fields of a record that is written as an array. -/
theorem madeOf_tuple {what : String} {v : Value} {xs : Fields fs} (decoded : tuple what fs limit v = .ok xs) :
    2 ≤ limit ∧ Fields.MadeOf (limit - 1) v 0 fs xs := by
  unfold tuple at decoded
  split at decoded
  · obtain ⟨inner, entered, read⟩ := bind_eq_ok.mp decoded
    obtain ⟨opened, rfl⟩ := enter_eq_ok.mp (liftFault_eq_ok.mp entered)
    refine ⟨opened, madeOf_readItems read fun k name => ?_⟩
    rw [Nat.zero_add]
    rfl
  · exact absurd decoded wrongKind_ne_ok

/-- The fields of a record are made of its members, or of its items in their order. -/
theorem madeOf_record {what : String} {v : Value} {xs : Fields fs} (distinct : (fs.map Field.name).Nodup)
    (decoded : record what fs limit v = .ok xs) : 2 ≤ limit ∧ Fields.MadeOf (limit - 1) v 0 fs xs := by
  unfold record at decoded
  split at decoded
  · simp only [bind_eq_ok, liftFault_eq_ok] at decoded
    obtain ⟨inner, entered, slots, read, -, -, complete⟩ := decoded
    obtain ⟨opened, rfl⟩ := enter_eq_ok.mp entered
    exact ⟨opened, (madeOf_readAll distinct read).complete complete 0⟩
  · exact madeOf_tuple decoded

end Records

end Viewsmith.Json
