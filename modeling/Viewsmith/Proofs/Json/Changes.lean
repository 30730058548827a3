import Mathlib.Data.List.Nodup
import Mathlib.Logic.Relation
import Viewsmith.Proofs.Json.Soundness

/-!
# Changes inside documents

One record of a document is changed, at any depth, and the rest of it is left alone (`Changes`). What
a decoder makes of the document then depends on the record only: if the decoder of the record makes
the same of it as before, or fails with an error, so does every decoder that the record is read by on
the way (`Settles`). There is one lemma for each way of putting decoders together, for both outcomes.
-/

namespace Viewsmith.Json

/-! ## Places -/

/-- What a field holds that has fields itself: a record, or a list of records. -/
inductive Part (ρ : Type) : Type where
  | record (name : ρ)
  | list (name : ρ)
deriving DecidableEq

/-- The fields of records, by the name of the record: their names in documents, and what they hold. -/
abbrev Schema (ρ : Type) : Type := ρ → List (String × Option (Part ρ))

/-- One change of one record in a document that is written for a schema. The record may stand in a
member of an object, in a record that is written as an array, or in a list. What a change may be depends
on the record and on the nesting limit where it stands. -/
inductive Changes {ρ : Type} (schema : Schema ρ) (change : Nat → ρ → Value → Value → Prop) :
    Nat → Part ρ → Value → Value → Prop where
  | here {limit : Nat} {r : ρ} {v w : Value} (changed : change limit r v w) :
      Changes schema change limit (.record r) v w
  | member {limit : Nat} {r : ρ} {part : Part ρ} {before after : List (Lexeme × Value)}
      {key : Lexeme} {name : String} {v w : Value} (spelled : key.text = .ok name)
      (known : (name, some part) ∈ schema r) (inside : Changes schema change (limit - 1) part v w) :
      Changes schema change limit (.record r) (.object (before ++ (key, v) :: after) .closed)
        (.object (before ++ (key, w) :: after) .closed)
  | entry {limit : Nat} {r : ρ} {part : Part ρ} {before after : List Value} {name : String}
      {v w : Value} (known : (schema r)[before.length]? = some (name, some part))
      (inside : Changes schema change (limit - 1) part v w) :
      Changes schema change limit (.record r) (.array (before ++ v :: after) .closed)
        (.array (before ++ w :: after) .closed)
  | item {limit : Nat} {r : ρ} {before after : List Value} {v w : Value}
      (inside : Changes schema change (limit - 1) (.record r) v w) :
      Changes schema change limit (.list r) (.array (before ++ v :: after) .closed)
        (.array (before ++ w :: after) .closed)

section Places

variable {ρ : Type} {schema : Schema ρ} {change : Nat → ρ → Value → Value → Prop} {limit : Nat}
  {part : Part ρ} {v w : Value}

/-- A changed document has a text if the changed record has one. -/
theorem Changes.exists_writes (h : Changes schema change limit part v w)
    (writable : ∀ {limit r v w}, change limit r v w → (∃ text, Writes v text) →
      ∃ text, Writes w text) :
    (∃ text, Writes v text) → ∃ text, Writes w text := by
  induction h with
  | here changed => exact writable changed
  | member _ _ _ ih =>
      simp only [exists_writes_object, List.forall_mem_append, List.forall_mem_cons]
      rintro ⟨before, ⟨_, written⟩, after⟩
      cases written with
      | mk name front back entry =>
          obtain ⟨text, entry⟩ := ih ⟨_, entry⟩
          exact ⟨before, ⟨_, .mk name front back entry⟩, after⟩
  | entry _ _ ih | item _ ih =>
      simp only [exists_writes_array, List.forall_mem_append, List.forall_mem_cons]
      exact fun ⟨before, written, after⟩ => ⟨before, ih written, after⟩

/-- A changed document is null only where the changed record is. -/
theorem Changes.ne_null (h : Changes schema change limit part v w)
    (visible : ∀ {limit r v w}, change limit r v w → v ≠ .null ∧ w ≠ .null) :
    v ≠ .null ∧ w ≠ .null := by
  cases h with
  | here changed => exact visible changed
  | member | entry | item => simp

/-- The only member of an object is changed. -/
theorem Changes.only {r : ρ} {name : String} (known : (name, some part) ∈ schema r)
    (inside : Changes schema change (limit - 1) part v w) :
    Changes schema change limit (.record r) (.object [(lexemeOf name, v)] .closed)
      (.object [(lexemeOf name, w)] .closed) :=
  @Changes.member _ _ _ _ _ _ [] [] _ _ _ _ (text_lexemeOf name) known inside

end Places

/-! ## Outcomes -/

/-- The limit inside a list that may be opened. -/
theorem enter_eq_ok {limit inner : Nat} :
    enter limit = .ok inner ↔ 2 ≤ limit ∧ inner = limit - 1 := by
  rcases limit with _ | _ | limit
  · simp [enter]
  · simp [enter]
  · rw [enter, Except.ok.injEq, eq_comm]
    simp

/-- What is made of a changed value, given what was made of it before: the same, or the error that the
change brings about. -/
def outcome {α : Type} (error? : Option DecodeError) (x : α) : Decoded α :=
  match error? with
  | none => .ok x
  | some e => .error e

/-- Whether a decoder that makes something of a value makes the same of another one, or fails with a
given error. -/
def Settles {α : Type} (error? : Option DecodeError) (decode : Decoder α) (limit : Nat)
    (v w : Value) : Prop :=
  ∀ ⦃x : α⦄, decode limit v = .ok x → decode limit w = outcome error? x

section Outcomes

variable {α β : Type} {error? : Option DecodeError} {decode : Decoder α} {limit : Nat} {v w : Value}

/-- What goes well after the change went well before it, and an error stays the same error. -/
theorem outcome_bind {x : α} {next : α → Decoded β} {y : β} (made : next x = .ok y) :
    (outcome error? x >>= next) = outcome error? y := by
  cases error? with
  | none => exact made
  | some e => rfl

theorem outcome_map {x : α} (f : α → β) : (outcome error? x).map f = outcome error? (f x) := by
  cases error? <;> rfl

theorem Settles.bind (h : Settles error? decode limit v w) (next : α → Decoded β) :
    Settles error? (fun limit v => decode limit v >>= next) limit v w := by
  intro y decoded
  obtain ⟨x, decoded, made⟩ := bind_eq_ok.mp decoded
  show (decode limit w >>= next) = _
  rw [h decoded, outcome_bind made]

theorem Settles.optional (h : Settles error? decode limit v w) (present : v ≠ .null)
    (present' : w ≠ .null) : Settles error? (optional decode) limit v w := by
  intro x decoded
  rw [optional_of_ne_null present] at decoded
  rw [optional_of_ne_null present']
  cases inside : decode limit v with
  | error e =>
      rw [inside] at decoded
      cases decoded
  | ok y =>
      rw [inside] at decoded
      cases decoded
      rw [h inside, outcome_map]

/-! ## Lists -/

theorem mapM_outcome {f : Value → Decoded α} (h : ∀ x, f v = .ok x → f w = outcome error? x)
    {before after : List Value} {xs : List α} (made : (before ++ v :: after).mapM f = .ok xs) :
    (before ++ w :: after).mapM f = outcome error? xs := by
  induction before generalizing xs with
  | nil =>
      simp only [List.nil_append, List.mapM_cons] at made ⊢
      obtain ⟨x, first, others⟩ := bind_eq_ok.mp made
      rw [h x first]
      exact outcome_bind others
  | cons u before ih =>
      simp only [List.cons_append, List.mapM_cons] at made ⊢
      obtain ⟨x, first, made⟩ := bind_eq_ok.mp made
      obtain ⟨ys, others, whole⟩ := bind_eq_ok.mp made
      rw [first, ih others]
      exact outcome_bind whole

theorem Settles.item (h : Settles error? decode (limit - 1) v w) {before after : List Value} :
    Settles error? (sequence decode) limit (.array (before ++ v :: after) .closed)
      (.array (before ++ w :: after) .closed) := by
  intro xs decoded
  rw [Json.sequence] at decoded ⊢
  obtain ⟨inner, entered, decoded⟩ := bind_eq_ok.mp decoded
  obtain ⟨ys, made, whole⟩ := bind_eq_ok.mp decoded
  obtain ⟨-, rfl⟩ := enter_eq_ok.mp (liftFault_eq_ok.mp entered)
  rw [entered]
  show ((before ++ w :: after).mapM (decode (limit - 1)) >>= _) = _
  rw [mapM_outcome (fun x => @h x) made]
  exact outcome_bind whole

end Outcomes

/-! ## Members -/

section Members

variable {limit : Nat} {fs : List Field}

theorem readAll_cons_eq_ok {m : Lexeme × Value} {rest : List (Lexeme × Value)}
    {slots whole : Slots fs} :
    Slots.readAll limit fs slots (m :: rest) = .ok whole ↔
      ∃ key middle, m.1.text = .ok key ∧ Slots.read limit key m.2 fs slots = .ok middle ∧
        Slots.readAll limit fs middle rest = .ok whole := by
  simp only [Slots.readAll, bind_eq_ok, liftFault_eq_ok]
  constructor
  · rintro ⟨key, spelled, middle, first, others⟩
    exact ⟨key, middle, spelled, first, others⟩
  · rintro ⟨key, middle, spelled, first, others⟩
    exact ⟨key, spelled, middle, first, others⟩

/-- Members are read one after the other. -/
theorem readAll_append (before after : List (Lexeme × Value)) (slots : Slots fs) :
    Slots.readAll limit fs slots (before ++ after)
      = Slots.readAll limit fs slots before >>= fun middle =>
          Slots.readAll limit fs middle after := by
  induction before generalizing slots with
  | nil => rfl
  | cons m rest ih =>
      rw [List.cons_append, Slots.readAll, Slots.readAll, bind_assoc]
      refine congrArg _ (funext fun key => ?_)
      rw [bind_assoc]
      exact congrArg _ (funext fun middle => ih middle)

theorem readAll_append_eq_ok {before after : List (Lexeme × Value)} {slots whole : Slots fs} :
    Slots.readAll limit fs slots (before ++ after) = .ok whole ↔
      ∃ middle, Slots.readAll limit fs slots before = .ok middle ∧
        Slots.readAll limit fs middle after = .ok whole := by
  rw [readAll_append, bind_eq_ok]

/-- A record is complete if every slot is filled or has a default. -/
theorem complete_cons_eq_ok {f : Field} {slot : Option f.type} {slots : Slots fs} {whole : Fields (f :: fs)} :
    Slots.complete (f :: fs) (.cons slot slots) = .ok whole ↔
      ∃ x xs, slot.or f.default? = some x ∧ slots.complete fs = .ok xs ∧ whole = (x, xs) := by
  rw [Slots.cons, Slots.complete]
  cases filled : slot.or f.default? with
  | none => simp
  | some x =>
      refine bind_eq_ok.trans ?_
      constructor
      · rintro ⟨xs, others, same⟩
        exact ⟨x, xs, rfl, others, (Except.ok.inj same).symm⟩
      · rintro ⟨_, xs, same, others, rfl⟩
        cases same
        exact ⟨xs, others, rfl⟩

/-- A member is read into the slots that it was read into before its value was changed. -/
theorem read_outcome {error? : Option DecodeError} {name : String} {v w : Value}
    (h : ∀ f ∈ fs, f.name = name → Settles error? f.decode limit v w)
    (known : name ∈ fs.map Field.name) {slots whole : Slots fs}
    (read : Slots.read limit name v fs slots = .ok whole) :
    Slots.read limit name w fs slots = outcome error? whole := by
  induction fs with
  | nil => cases known
  | cons f fs ih =>
      obtain ⟨slot, rest⟩ := slots
      rw [List.forall_mem_cons] at h
      rcases read_cons_eq_ok.mp read with ⟨named, empty, x, decoded, rfl⟩ | ⟨other, mid, inner, rfl⟩
      · subst named empty
        show Slots.read limit f.name w (f :: fs) (.cons none rest) = _
        rw [read_of_name, h.1 rfl decoded, outcome_map]
      · rw [List.map_cons, List.mem_cons] at known
        have later : name ∈ fs.map Field.name := known.resolve_left (Ne.symm other)
        show Slots.read limit name w (f :: fs) (.cons slot rest) = _
        rw [read_of_other other, ih h.2 later inner, outcome_map]

theorem readAll_outcome {error? : Option DecodeError} {key : Lexeme} {name : String} {v w : Value}
    (spelled : key.text = .ok name)
    (h : ∀ f ∈ fs, f.name = name → Settles error? f.decode limit v w)
    (known : name ∈ fs.map Field.name) {before after : List (Lexeme × Value)} {slots whole : Slots fs}
    (read : Slots.readAll limit fs slots (before ++ (key, v) :: after) = .ok whole) :
    Slots.readAll limit fs slots (before ++ (key, w) :: after) = outcome error? whole := by
  obtain ⟨middle, first, read⟩ := readAll_append_eq_ok.mp read
  obtain ⟨_, next, spelled', inner, later⟩ := readAll_cons_eq_ok.mp read
  obtain rfl := Except.ok.inj (spelled.symm.trans spelled')
  rw [readAll_append, first]
  show Slots.readAll limit fs middle ((key, w) :: after) = _
  rw [Slots.readAll, spelled]
  show (Slots.read limit name w fs middle >>= _) = _
  rw [read_outcome h known inner]
  exact outcome_bind later

/-- The items of a record that is written as an array are read as before one of them was changed. -/
theorem readItems_outcome {error? : Option DecodeError} {before after : List Value} {v w : Value}
    (h : ∀ f, fs[before.length]? = some f → Settles error? f.decode limit v w)
    (known : before.length < fs.length) {expected : String} {count : Nat} {xs : Fields fs}
    (read : Fields.readItems limit expected .closed fs count (before ++ v :: after) = .ok xs) :
    Fields.readItems limit expected .closed fs count (before ++ w :: after) = outcome error? xs := by
  induction fs generalizing before count with
  | nil => cases known
  | cons f fs ih =>
      cases before with
      | nil =>
          rw [List.nil_append, Fields.readItems] at read ⊢
          obtain ⟨x, decoded, later⟩ := bind_eq_ok.mp read
          rw [h f rfl decoded]
          exact outcome_bind later
      | cons u before =>
          rw [List.cons_append, Fields.readItems] at read ⊢
          obtain ⟨x, decoded, later⟩ := bind_eq_ok.mp read
          obtain ⟨rest, inner, whole⟩ := bind_eq_ok.mp later
          have inside : before.length < fs.length := Nat.lt_of_succ_lt_succ known
          rw [decoded]
          show (Fields.readItems limit expected .closed fs (count + 1) (before ++ w :: after) >>= _) = _
          rw [ih (fun g at_g => h g at_g) inside inner]
          exact outcome_bind whole

end Members

/-! ## Records -/

section Records

variable {error? : Option DecodeError} {limit : Nat} {what : String} {fs : List Field} {v w : Value}

/-- A record that is written as an object is read from its members under the next lower limit. -/
theorem record_object (opened : 2 ≤ limit) (members : List (Lexeme × Value)) :
    record what fs limit (.object members .closed)
      = Slots.readAll (limit - 1) fs (Slots.empty fs) members >>= fun slots => slots.complete fs := by
  rw [record, enter_eq_ok.mpr ⟨opened, rfl⟩]
  rfl

/-- A record that is written as an array is read from its items under the next lower limit. -/
theorem record_array (opened : 2 ≤ limit) (items : List Value) :
    record what fs limit (.array items .closed)
      = Fields.readItems (limit - 1) (elementsPhrase what fs.length) .closed fs 0 items := by
  show tuple what fs limit (.array items .closed) = _
  rw [tuple, enter_eq_ok.mpr ⟨opened, rfl⟩]
  rfl

theorem record_object_eq_ok {members : List (Lexeme × Value)} {xs : Fields fs} :
    record what fs limit (.object members .closed) = .ok xs ↔
      2 ≤ limit ∧ ∃ slots, Slots.readAll (limit - 1) fs (Slots.empty fs) members = .ok slots ∧
        slots.complete fs = .ok xs := by
  constructor
  · intro decoded
    have opened : 2 ≤ limit := by
      rw [record] at decoded
      obtain ⟨inner, entered, -⟩ := bind_eq_ok.mp decoded
      exact (enter_eq_ok.mp (liftFault_eq_ok.mp entered)).1
    rw [record_object opened, bind_eq_ok] at decoded
    exact ⟨opened, decoded⟩
  · rintro ⟨opened, decoded⟩
    rw [record_object opened, bind_eq_ok]
    exact decoded

theorem record_array_eq_ok {items : List Value} {xs : Fields fs} :
    record what fs limit (.array items .closed) = .ok xs ↔
      2 ≤ limit ∧ Fields.readItems (limit - 1) (elementsPhrase what fs.length) .closed fs 0 items
        = .ok xs := by
  constructor
  · intro decoded
    have opened : 2 ≤ limit := by
      change tuple what fs limit (.array items .closed) = .ok xs at decoded
      rw [tuple] at decoded
      obtain ⟨inner, entered, -⟩ := bind_eq_ok.mp decoded
      exact (enter_eq_ok.mp (liftFault_eq_ok.mp entered)).1
    rw [record_array opened] at decoded
    exact ⟨opened, decoded⟩
  · rintro ⟨opened, decoded⟩
    rw [record_array opened]
    exact decoded

/-- The value of one member is changed. -/
theorem Settles.member {key : Lexeme} {name : String} (spelled : key.text = .ok name)
    (known : name ∈ fs.map Field.name)
    (h : ∀ f ∈ fs, f.name = name → Settles error? f.decode (limit - 1) v w)
    {before after : List (Lexeme × Value)} :
    Settles error? (record what fs) limit (.object (before ++ (key, v) :: after) .closed)
      (.object (before ++ (key, w) :: after) .closed) := by
  intro xs decoded
  obtain ⟨opened, slots, read, complete⟩ := record_object_eq_ok.mp decoded
  rw [record_object opened, readAll_outcome spelled h known read]
  exact outcome_bind complete

/-- One item of a record that is written as an array is changed. -/
theorem Settles.entry {before after : List Value} (known : before.length < fs.length)
    (h : ∀ f, fs[before.length]? = some f → Settles error? f.decode (limit - 1) v w) :
    Settles error? (record what fs) limit (.array (before ++ v :: after) .closed)
      (.array (before ++ w :: after) .closed) := by
  intro xs decoded
  obtain ⟨opened, read⟩ := record_array_eq_ok.mp decoded
  rw [record_array opened]
  exact readItems_outcome h known read

end Records

/-! ## Decoders -/

theorem map_eq_map_of_forall₂ {α β γ : Type*} {f : α → γ} {g : β → γ} {xs : List α} {ys : List β}
    (h : List.Forall₂ (fun x y => f x = g y) xs ys) : xs.map f = ys.map g := by
  rwa [← List.forall₂_eq_eq_eq, List.forall₂_map_left_iff, List.forall₂_map_right_iff]

section Decoders

variable {ρ : Type} (schema : Schema ρ) (change : Nat → ρ → Value → Value → Prop)
  (error? : Option DecodeError)

/-- Whether every change inside a part of a document settles the decoder of the part, under the nesting
limit where the part stands. -/
def Respects {α : Type} (limit : Nat) (part : Part ρ) (decode : Decoder α) : Prop :=
  ∀ ⦃v w : Value⦄, Changes schema change limit part v w → Settles error? decode limit v w

/-- Whether a field of a record is the one that a schema has, and its decoder respects the changes in
what it holds. -/
structure FieldRespects (limit : Nat) (f : Field) (entry : String × Option (Part ρ)) : Prop where
  name : f.name = entry.1
  respects : ∀ part ∈ entry.2, Respects schema change error? limit part f.decode

variable {schema change error?} {α β : Type} {limit : Nat} {part : Part ρ} {decode : Decoder α}

/-- A field that holds no record. -/
theorem FieldRespects.plain {f : Field} {name : String} (named : f.name = name) :
    FieldRespects schema change error? limit f (name, none) :=
  ⟨named, fun _ none => by cases none⟩

theorem FieldRespects.inside {f : Field} {name : String} (named : f.name = name)
    (respects : Respects schema change error? limit part f.decode) :
    FieldRespects schema change error? limit f (name, some part) := by
  refine ⟨named, fun other same => ?_⟩
  cases same
  exact respects

theorem Respects.bind (h : Respects schema change error? limit part decode)
    (next : α → Decoded β) :
    Respects schema change error? limit part fun limit v => decode limit v >>= next :=
  fun _ _ changed => (h changed).bind next

theorem Respects.optional
    (visible : ∀ {limit r v w}, change limit r v w → v ≠ .null ∧ w ≠ .null)
    (h : Respects schema change error? limit part decode) :
    Respects schema change error? limit part (optional decode) := by
  intro v w changed
  obtain ⟨present, present'⟩ := changed.ne_null visible
  exact (h changed).optional present present'

variable {r : ρ} {fs : List Field} {row : List (String × Option (Part ρ))}

theorem Respects.sequence (h : Respects schema change error? (limit - 1) (.record r) decode) :
    Respects schema change error? limit (.list r) (sequence decode) := by
  intro v w changed
  cases changed with
  | item inside => exact (h inside).item

theorem map_name_of_fieldRespects
    (fields : List.Forall₂ (FieldRespects schema change error? limit) fs row) :
    fs.map Field.name = row.map Prod.fst :=
  map_eq_map_of_forall₂ (fields.imp fun _ _ respects => respects.name)

/-- Fields are told apart by their names. -/
theorem fieldRespects_of_name
    (fields : List.Forall₂ (FieldRespects schema change error? limit) fs row)
    (distinct : (fs.map Field.name).Nodup) {f : Field} (hf : f ∈ fs)
    {entry : String × Option (Part ρ)} (known : entry ∈ row) (named : f.name = entry.1) :
    FieldRespects schema change error? limit f entry := by
  induction fields with
  | nil => cases hf
  | @cons g first fs row respects others ih =>
      rw [List.map_cons, List.nodup_cons] at distinct
      rcases List.mem_cons.mp hf with rfl | hf
      · rcases List.mem_cons.mp known with rfl | known
        · exact respects
        · have later : f.name ∈ fs.map Field.name := by
            rw [map_name_of_fieldRespects others, named]
            exact List.mem_map_of_mem known
          exact absurd later distinct.1
      · rcases List.mem_cons.mp known with rfl | known
        · have later : g.name ∈ fs.map Field.name := by
            rw [respects.name, ← named]
            exact List.mem_map_of_mem hf
          exact absurd later distinct.1
        · exact ih distinct.2 hf known

/-- The decoder of a record respects changes in what its fields hold, and the changes of the record
itself that settle it. -/
theorem respects_record (what : String)
    (fields : List.Forall₂ (FieldRespects schema change error? (limit - 1)) fs (schema r))
    (distinct : (fs.map Field.name).Nodup)
    (here : ∀ {v w}, change limit r v w → Settles error? (record what fs) limit v w) :
    Respects schema change error? limit (.record r) (record what fs) := by
  intro v w changed
  cases changed with
  | here changed => exact here changed
  | member spelled known inside =>
      refine Settles.member spelled ?_ fun f hf named => ?_
      · rw [map_name_of_fieldRespects fields]
        exact List.mem_map_of_mem known
      · exact (fieldRespects_of_name fields distinct hf known named).respects _ rfl inside
  | @entry _ _ _ before _ _ _ _ known inside =>
      obtain ⟨bound, -⟩ := List.getElem?_eq_some_iff.mp known
      refine Settles.entry (fields.length_eq ▸ bound) fun f at_f => ?_
      obtain ⟨bound', rfl⟩ := List.getElem?_eq_some_iff.mp at_f
      have respects := fields.get bound' bound
      rw [List.get_eq_getElem, List.get_eq_getElem,
        (List.getElem?_eq_some_iff.mp known).2] at respects
      exact respects.respects _ rfl inside

end Decoders

/-! ## Texts -/

section Texts

variable {α : Type} {decode : Decoder α} {v w : Value}

/-- A document is decoded as its value is. -/
theorem decodeText_of_isDocument {text : String} (document : IsDocument v text.toList) :
    decodeText decode text = decode nestingLimit v := by
  obtain ⟨rest, read, blank⟩ := readPrefixValue_of_isDocument document
  rw [decodeText, read]
  simp only [checkEnd_eq_ok.mpr blank, liftFault]
  cases decode nestingLimit v <;> rfl

theorem exists_isDocument (written : ∃ text, Writes v text) :
    ∃ text : String, IsDocument v text.toList := by
  obtain ⟨text, written⟩ := written
  exact ⟨String.ofList text, isDocument_ofList written⟩

theorem IsDocument.exists_writes {text : List Char} (document : IsDocument v text) :
    ∃ text, Writes v text := by
  obtain ⟨_, inside, _, -, -, -, written⟩ := document
  exact ⟨inside, written⟩

/-- Whatever a text is read as, so is every text of what its value becomes in any number of steps that
a decoder does not notice, and there is such a text. -/
theorem decodeText_of_steps {step : Value → Value → Prop} (intact : Intact decode)
    (writable : ∀ {v w}, step v w → (∃ text, Writes v text) → ∃ text, Writes w text)
    (unnoticed : ∀ {v w x}, step v w → decode nestingLimit v = .ok x → decode nestingLimit w = .ok x)
    {text : String} {x : α} (decoded : decodeText decode text = .ok x) :
    ∃ v, IsDocument v text.toList ∧ ∀ w, Relation.ReflTransGen step v w →
      (∃ moved : String, IsDocument w moved.toList) ∧
        ∀ moved : String, IsDocument w moved.toList → decodeText decode moved = .ok x := by
  obtain ⟨v, document, decoded⟩ := (decodeText_eq_ok intact).mp decoded
  refine ⟨v, document, fun w steps => ?_⟩
  have kept : (∃ text, Writes w text) ∧ decode nestingLimit w = .ok x := by
    induction steps with
    | refl => exact ⟨document.exists_writes, decoded⟩
    | tail _ last ih => exact ⟨writable last ih.1, unnoticed last ih.2⟩
  refine ⟨exists_isDocument kept.1, fun moved document' => ?_⟩
  rw [decodeText_of_isDocument document', kept.2]

end Texts

end Viewsmith.Json
