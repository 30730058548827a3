import Mathlib.Data.List.Basic
import Viewsmith.Proofs.Json.Changes

/-!
# Order of members, and unknown members

A record that is written as an object has its members in any order, and among them members that are no
fields. One change of such an object, at any depth of a document, is a step (`Rearranges`). A decoder
that makes something of a value makes the same of it after a step (`Keeps`). For the decoder of the record
this rests on two facts about members: two that are read one after the other can be read the other way
round (`read_swap`), and an unknown one leaves what has been read as it is (`read_of_unknown`).
-/

namespace Viewsmith.Json

/-! ## Steps -/

/-- One change of one object in a document that is written for a schema. The object may stand in a
member of another object, in a record that is written as an array, or in a list. -/
inductive Rearranges {ρ : Type} (schema : Schema ρ) : Part ρ → Value → Value → Prop where
  | permute {r : ρ} {members moved : List (Lexeme × Value)} (same : members.Perm moved) :
      Rearranges schema (.record r) (.object members .closed) (.object moved .closed)
  | insert {r : ρ} {before after : List (Lexeme × Value)} {member : Lexeme × Value}
      {text : List Char} {name : String} (written : WritesMember Writes member text)
      (spelled : member.1.text = .ok name) (unknown : name ∉ (schema r).map Prod.fst) :
      Rearranges schema (.record r) (.object (before ++ after) .closed)
        (.object (before ++ member :: after) .closed)
  | member {r : ρ} {part : Part ρ} {before after : List (Lexeme × Value)} {key : Lexeme}
      {name : String} {v w : Value} (spelled : key.text = .ok name)
      (known : (name, some part) ∈ schema r) (inside : Rearranges schema part v w) :
      Rearranges schema (.record r) (.object (before ++ (key, v) :: after) .closed)
        (.object (before ++ (key, w) :: after) .closed)
  | entry {r : ρ} {part : Part ρ} {before after : List Value} {name : String} {v w : Value}
      (known : (schema r)[before.length]? = some (name, some part))
      (inside : Rearranges schema part v w) :
      Rearranges schema (.record r) (.array (before ++ v :: after) .closed)
        (.array (before ++ w :: after) .closed)
  | item {r : ρ} {before after : List Value} {v w : Value}
      (inside : Rearranges schema (.record r) v w) :
      Rearranges schema (.list r) (.array (before ++ v :: after) .closed)
        (.array (before ++ w :: after) .closed)

variable {ρ : Type} {schema : Schema ρ} {part : Part ρ} {v w : Value}

inductive Reorders {ρ : Type} (schema : Schema ρ) (r : ρ) : Value → Value → Prop where
  | permute {members moved : List (Lexeme × Value)} (same : members.Perm moved) :
      Reorders schema r (.object members .closed) (.object moved .closed)
  | insert {before after : List (Lexeme × Value)} {member : Lexeme × Value} {text : List Char}
      {name : String} (written : WritesMember Writes member text)
      (spelled : member.1.text = .ok name) (unknown : name ∉ (schema r).map Prod.fst) :
      Reorders schema r (.object (before ++ after) .closed)
        (.object (before ++ member :: after) .closed)

theorem Reorders.ne_null {r : ρ} (h : Reorders schema r v w) : v ≠ .null ∧ w ≠ .null := by
  cases h <;> simp

theorem Reorders.exists_writes {r : ρ} (h : Reorders schema r v w) :
    (∃ text, Writes v text) → ∃ text, Writes w text := by
  cases h with
  | permute same =>
      rw [exists_writes_object, exists_writes_object]
      exact fun known m hm => known m (same.mem_iff.mpr hm)
  | insert written _ _ =>
      rw [exists_writes_object, exists_writes_object, List.forall_mem_append, List.forall_mem_append,
        List.forall_mem_cons]
      exact fun ⟨before, after⟩ => ⟨before, ⟨_, written⟩, after⟩

/-- A step is a change of one object. -/
theorem Rearranges.changes (h : Rearranges schema part v w) (limit : Nat) :
    Changes schema (fun _ => Reorders schema) limit part v w := by
  induction h generalizing limit with
  | permute same => exact .here (.permute same)
  | insert written spelled unknown => exact .here (.insert written spelled unknown)
  | member spelled known _ ih => exact .member spelled known (ih _)
  | entry known _ ih => exact .entry known (ih _)
  | item _ ih => exact .item (ih _)

/-- What a document is changed into has a text. -/
theorem Rearranges.exists_writes (h : Rearranges schema part v w) :
    (∃ text, Writes v text) → ∃ text, Writes w text :=
  (h.changes nestingLimit).exists_writes Reorders.exists_writes

/-! ## Members -/

section Members

variable {limit : Nat} {fs : List Field}

/-- Two members that are read one after the other can be read the other way round. -/
theorem read_swap {first second : String} {v w : Value} {slots middle whole : Slots fs}
    (read : Slots.read limit first v fs slots = .ok middle)
    (read' : Slots.read limit second w fs middle = .ok whole) :
    ∃ other, Slots.read limit second w fs slots = .ok other ∧
      Slots.read limit first v fs other = .ok whole := by
  induction fs with
  | nil => exact ⟨(), read', read⟩
  | cons f fs ih =>
      obtain ⟨slot, rest⟩ := slots
      obtain ⟨slot', rest'⟩ := middle
      rcases read_cons_eq_ok.mp read with ⟨rfl, rfl, x, decoded, same⟩ | ⟨other, mid, inner, same⟩
      · cases same
        rcases read_cons_eq_ok.mp read' with ⟨-, empty, -⟩ | ⟨other', last, inner', rfl⟩
        · cases empty
        · exact ⟨.cons none last, read_cons_eq_ok.mpr (.inr ⟨other', last, inner', rfl⟩),
            read_cons_eq_ok.mpr (.inl ⟨rfl, rfl, x, decoded, rfl⟩)⟩
      · cases same
        rcases read_cons_eq_ok.mp read' with ⟨rfl, rfl, x, decoded, rfl⟩ | ⟨other', last, inner', rfl⟩
        · exact ⟨.cons (some x) rest, read_cons_eq_ok.mpr (.inl ⟨rfl, rfl, x, decoded, rfl⟩),
            read_cons_eq_ok.mpr (.inr ⟨other, rest', inner, rfl⟩)⟩
        · obtain ⟨between, second, first⟩ := ih inner inner'
          exact ⟨.cons slot between, read_cons_eq_ok.mpr (.inr ⟨other', between, second, rfl⟩),
            read_cons_eq_ok.mpr (.inr ⟨other, last, first, rfl⟩)⟩

/-- Members are read into the same slots in any order. -/
theorem readAll_perm {members moved : List (Lexeme × Value)} (same : members.Perm moved)
    {slots whole : Slots fs} (read : Slots.readAll limit fs slots members = .ok whole) :
    Slots.readAll limit fs slots moved = .ok whole := by
  induction same generalizing slots with
  | nil => exact read
  | cons m _ ih =>
      obtain ⟨key, middle, spelled, first, others⟩ := readAll_cons_eq_ok.mp read
      exact readAll_cons_eq_ok.mpr ⟨key, middle, spelled, first, ih others⟩
  | swap m n rest =>
      obtain ⟨key, middle, spelled, first, read⟩ := readAll_cons_eq_ok.mp read
      obtain ⟨key', next, spelled', second, others⟩ := readAll_cons_eq_ok.mp read
      obtain ⟨other, second, first⟩ := read_swap first second
      exact readAll_cons_eq_ok.mpr
        ⟨key', other, spelled', second, readAll_cons_eq_ok.mpr ⟨key, next, spelled, first, others⟩⟩
  | trans _ _ ih ih' => exact ih' (ih read)

/-- A member that is no field leaves what has been read as it is. -/
theorem read_of_unknown {key : String} (unknown : key ∉ fs.map Field.name) {v : Value}
    (intact : v.skip = .ok ()) (slots : Slots fs) : Slots.read limit key v fs slots = .ok slots := by
  induction fs with
  | nil => exact liftFault_eq_ok.mpr intact
  | cons f fs ih =>
      rw [List.map_cons, List.mem_cons, not_or] at unknown
      obtain ⟨slot, rest⟩ := slots
      exact read_cons_eq_ok.mpr (.inr ⟨Ne.symm unknown.1, rest, ih unknown.2 rest, rfl⟩)

end Members

/-! ## Decoders -/

/-- Whether a decoder for a part of a document makes the same of a value after a step. -/
def Keeps {ρ α : Type} (schema : Schema ρ) (part : Part ρ) (decode : Decoder α) : Prop :=
  ∀ ⦃limit : Nat⦄ ⦃v w : Value⦄ ⦃x : α⦄, Rearranges schema part v w → decode limit v = .ok x →
    decode limit w = .ok x

theorem keeps_of_respects {α : Type} {decode : Decoder α}
    (h : ∀ limit, Respects schema (fun _ => Reorders schema) none limit part decode) :
    Keeps schema part decode :=
  fun limit _ _ _ step decoded => h limit (step.changes limit) decoded

/-- A record that is read from members is the same if they are read into the same slots. -/
theorem record_of_readAll {limit : Nat} {fs : List Field} {what : String}
    {members others : List (Lexeme × Value)} {xs : Fields fs}
    (same : ∀ inner slots, Slots.readAll inner fs (Slots.empty fs) members = .ok slots →
      Slots.readAll inner fs (Slots.empty fs) others = .ok slots)
    (decoded : record what fs limit (.object members .closed) = .ok xs) :
    record what fs limit (.object others .closed) = .ok xs := by
  obtain ⟨opened, slots, read, complete⟩ := record_object_eq_ok.mp decoded
  exact record_object_eq_ok.mpr ⟨opened, slots, same _ slots read, complete⟩

/-- A record stays the same when its object is changed. -/
theorem settles_reorders {r : ρ} {what : String} {fs : List Field} {limit : Nat}
    (names : fs.map Field.name = (schema r).map Prod.fst) (h : Reorders schema r v w) :
    Settles none (record what fs) limit v w := by
  intro xs decoded
  cases h with
  | permute same => exact record_of_readAll (fun _ _ => readAll_perm same) decoded
  | insert written spelled unknown =>
      rw [← names] at unknown
      refine record_of_readAll (fun inner slots read => ?_) decoded
      obtain ⟨middle, first, later⟩ := readAll_append_eq_ok.mp read
      have passed : Slots.read inner _ _ fs middle = .ok middle :=
        read_of_unknown unknown (skip_of_writesMember written).2 middle
      exact readAll_append_eq_ok.mpr
        ⟨middle, first, readAll_cons_eq_ok.mpr ⟨_, middle, spelled, passed, later⟩⟩

/-! ## Documents -/

/-- Whether a value is changed into another in any number of steps. -/
def Rearranged {ρ : Type} (schema : Schema ρ) (r : ρ) : Value → Value → Prop :=
  Relation.ReflTransGen (Rearranges schema (.record r))

/-- Whatever a text is read as, so is every text of what its value is changed into, and there is such
a text. -/
theorem decodeText_of_rearranged {α : Type} {decode : Decoder α} {r : ρ} (intact : Intact decode)
    (keeps : Keeps schema (.record r) decode) {text : String} {x : α}
    (decoded : decodeText decode text = .ok x) :
    ∃ v, IsDocument v text.toList ∧ ∀ w, Rearranged schema r v w →
      (∃ moved : String, IsDocument w moved.toList) ∧
        ∀ moved : String, IsDocument w moved.toList → decodeText decode moved = .ok x :=
  decodeText_of_steps intact Rearranges.exists_writes (fun step => keeps step) decoded

end Viewsmith.Json
