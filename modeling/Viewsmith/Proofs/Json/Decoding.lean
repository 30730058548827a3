import Mathlib.Data.List.Basic
import Viewsmith.Json.Decoder
import Viewsmith.Proofs.Json.Nesting
import Viewsmith.Proofs.Json.Reading
import Viewsmith.Proofs.Maps

/-!
# Decoding what was written

A text spells something for a decoder under a nesting limit if the decoder makes that thing of it,
wherever the text stands, unless the text nests deeper than the limit (`Spells`). There is one lemma
for each way of putting decoders together; the entries of a list are under the next lower limit. A
text that spells something is a document of it (`decodeText_of_spells`).
-/

namespace Viewsmith.Json

/-- Whether a decoder makes something of a text under a nesting limit, if the text keeps the limit. -/
structure Spells {α : Type} (limit : Nat) (decode : Decoder α) (text : List Char) (x : α) : Prop where
  closed : IsClosed text
  decoded : nesting text < limit → ∃ v, Reads text v ∧ decode limit v = .ok x

variable {α β : Type} {limit : Nat}

/-! ## Scalars -/

theorem spells_string (s : String) : Spells limit string (quoted s) s where
  closed := (nests_quoted s).isClosed
  decoded := by
    intro _
    refine ⟨_, reads_quoted s, ?_⟩
    rw [string, text_lexemeOf]
    rfl

theorem isPlainChar_of_isNumeralChar {c : Char} (h : isNumeralChar c = true) :
    isPlainChar c = true := by
  rw [isPlainChar, decide_eq_true_iff]
  exact notMem_of_all_not (by decide) h

theorem nests_of_writesNumeral {n : Numeral} {text : List Char} (h : WritesNumeral n text) :
    Nests text 0 :=
  nests_of_plain fun c hc => isPlainChar_of_isNumeralChar (isNumeralChar_of_writesNumeral h c hc)

theorem spells_oneOf {name : α → String} {all : List α} {x : α}
    (first : all.find? (fun y => name y = name x) = some x) :
    Spells limit (oneOf name all) (quoted (name x)) x where
  closed := (nests_quoted _).isClosed
  decoded := by
    intro _
    refine ⟨_, reads_quoted _, ?_⟩
    simp only [oneOf, text_lexemeOf, liftFault, bind, Except.bind, first]

/-! ## Putting decoders together -/

/-- Only what a decoder does under the limit matters. -/
theorem Spells.congr {decode decode' : Decoder α} {text : List Char} {x : α}
    (h : Spells limit decode text x) (same : decode limit = decode' limit) :
    Spells limit decode' text x where
  closed := h.closed
  decoded := by
    rw [← same]
    exact h.decoded

theorem Spells.bind {decode : Decoder α} {next : α → Decoded β} {text : List Char} {x : α} {y : β}
    (h : Spells limit decode text x) (made : next x = .ok y) :
    Spells limit (fun limit v => decode limit v >>= next) text y where
  closed := h.closed
  decoded := by
    intro allowed
    obtain ⟨v, reads, decoded⟩ := h.decoded allowed
    refine ⟨v, reads, ?_⟩
    rw [decoded]
    exact made

theorem optional_of_ne_null {decode : Decoder α} {v : Value} (notNull : v ≠ .null) :
    optional decode limit v = (decode limit v).map some := by
  rw [optional]
  exact notNull

/-- What a decoder makes of a text that is not null, it makes when null is allowed as well. -/
theorem Spells.optional {decode : Decoder α} {text : List Char} {x : α}
    (h : Spells limit decode text x) (refuses : decode limit .null ≠ .ok x) :
    Spells limit (optional decode) text (some x) where
  closed := h.closed
  decoded := by
    intro allowed
    obtain ⟨v, reads, decoded⟩ := h.decoded allowed
    refine ⟨v, reads, ?_⟩
    have notNull : v ≠ .null := by
      rintro rfl
      exact refuses decoded
    rw [optional_of_ne_null notNull, decoded]
    rfl

/-! ## Lists and maps -/

/-- A list may be opened under a limit that it keeps, and its entries keep the next lower one. -/
theorem enter_of_keeps {n : Nat} (opened : 0 < n) (allowed : n < limit + 1) :
    enter (limit + 1) = .ok limit ∧ ∀ m, m < n → m < limit := by
  obtain ⟨k, rfl⟩ := Nat.exists_eq_add_one.mpr (show 0 < limit by omega)
  exact ⟨rfl, fun m below => by omega⟩

theorem exists_items {decode : Decoder α} {encode : β → List Char} {made : β → α} {xs : List β}
    (spells : ∀ x ∈ xs, Spells limit decode (encode x) (made x))
    (kept : ∀ x ∈ xs, nesting (encode x) < limit) :
    ∃ values, List.Forall₂ Reads (xs.map encode) values ∧
      values.mapM (decode limit) = .ok (xs.map made) := by
  induction xs with
  | nil => exact ⟨[], .nil, rfl⟩
  | cons x rest ih =>
      rw [List.forall_mem_cons] at spells kept
      obtain ⟨v, reads, decoded⟩ := spells.1.decoded kept.1
      obtain ⟨values, others, items⟩ := ih spells.2 kept.2
      refine ⟨v :: values, .cons reads others, ?_⟩
      rw [List.mapM_cons, decoded, items]
      rfl

/-- The items of a list need not be what their texts are made of. -/
theorem spells_sequence_map {decode : Decoder α} {encode : β → List Char} {made : β → α} {xs : List β}
    (spells : ∀ x ∈ xs, Spells limit decode (encode x) (made x)) :
    Spells (limit + 1) (sequence decode) (arrayText (xs.map encode)) (xs.map made) := by
  have entries : ∀ text ∈ xs.map encode, IsClosed text := by
    rw [List.forall_mem_map]
    exact fun x hx => (spells x hx).closed
  obtain ⟨closed, opened, deeper⟩ := nests_bracketed (Or.inl rfl) (Or.inl rfl) entries
  refine ⟨closed, fun allowed => ?_⟩
  obtain ⟨entered, kept⟩ := enter_of_keeps opened allowed
  obtain ⟨values, reads, items⟩ := exists_items spells fun x hx =>
    kept _ (deeper _ (List.mem_map_of_mem hx))
  refine ⟨_, reads_arrayText reads, ?_⟩
  rw [sequence, entered]
  show (values.mapM (decode limit) >>= _) = _
  rw [items]
  rfl

theorem spells_sequence {decode : Decoder α} {encode : α → List Char} {xs : List α}
    (spells : ∀ x ∈ xs, Spells limit decode (encode x) x) :
    Spells (limit + 1) (sequence decode) (arrayText (xs.map encode)) xs := by
  have same : Spells (limit + 1) (sequence decode) (arrayText (xs.map encode)) (xs.map id) :=
    spells_sequence_map spells
  rwa [List.map_id] at same

theorem nests_memberText {m : String × List Char} (closed : IsClosed m.2) :
    Nests (memberText m) (nesting m.2) := by
  have colon : Nests [':'] 0 := nests_of_plain (List.all_iff_forall_prop.mp (by decide))
  have whole := (nests_quoted m.1).append (colon.append closed)
  rwa [Nat.zero_max, Nat.zero_max] at whole

section Objects

variable {members : List (String × List Char)}

theorem isClosed_memberText (closed : ∀ m ∈ members, IsClosed m.2) :
    ∀ text ∈ members.map memberText, IsClosed text := by
  rw [List.forall_mem_map]
  exact fun m hm => (nests_memberText (closed m hm)).isClosed

theorem nests_objectText (closed : ∀ m ∈ members, IsClosed m.2) :
    IsClosed (objectText members) ∧ 0 < nesting (objectText members) ∧
      ∀ m ∈ members, nesting m.2 < nesting (objectText members) := by
  obtain ⟨outer, opened, deeper⟩ :=
    nests_bracketed (Or.inr rfl) (Or.inr rfl) (isClosed_memberText closed)
  rw [objectText_eq]
  refine ⟨outer, opened, fun m hm => ?_⟩
  rw [← (nests_memberText (closed m hm)).nesting_eq]
  exact deeper _ (List.mem_map_of_mem hm)

theorem nesting_objectText_le (closed : ∀ m ∈ members, IsClosed m.2) {depth : Nat}
    (bound : ∀ m ∈ members, nesting m.2 ≤ depth) : nesting (objectText members) ≤ depth + 1 := by
  refine nesting_bracketed_le (Or.inr rfl) (Or.inr rfl) (isClosed_memberText closed) ?_
  rw [List.forall_mem_map]
  exact fun m hm => (nests_memberText (closed m hm)).nesting_eq.trans_le (bound m hm)

end Objects

theorem exists_mapMembers {decode : Decoder α} {encode : β → List Char} {made : β → α}
    {entries : List (String × β)} (spells : ∀ e ∈ entries, Spells limit decode (encode e.2) (made e.2))
    (kept : ∀ e ∈ entries, nesting (encode e.2) < limit) :
    ∃ values, List.Forall₂ ReadsMember (entries.map fun e => (e.1, encode e.2)) values ∧
      ∀ m whole : OrderedMap α, whole.entries = m.entries ++ entries.map (fun e => (e.1, made e.2)) →
        mapMembers (decode limit) m values = .ok whole := by
  induction entries with
  | nil =>
      refine ⟨[], .nil, fun m whole same => ?_⟩
      rw [List.map_nil, List.append_nil] at same
      rw [mapMembers, OrderedMap.ext same]
  | cons e rest ih =>
      rw [List.forall_mem_cons] at spells kept
      obtain ⟨v, reads, decoded⟩ := spells.1.decoded kept.1
      obtain ⟨values, others, members⟩ := ih spells.2 kept.2
      refine ⟨(lexemeOf e.1, v) :: values, .cons ⟨rfl, reads⟩ others, fun m whole same => ?_⟩
      have absent : e.1 ∉ m.keys := by
        intro known
        have nodup := whole.nodup_keys
        rw [same, List.map_append, List.nodup_append] at nodup
        exact nodup.2.2 _ known _ (List.mem_map_of_mem List.mem_cons_self) rfl
      rw [mapMembers, text_lexemeOf, decoded]
      refine members _ whole ?_
      rw [same, OrderedMap.entries_insert_of_absent absent (made e.2), List.append_assoc]
      rfl

/-- The values of a map need not be what their texts are made of. -/
theorem spells_orderedMap_map {decode : Decoder α} {encode : β → List Char} {made : β → α} {m : OrderedMap β}
    (spells : ∀ e ∈ m.entries, Spells limit decode (encode e.2) (made e.2)) :
    Spells (limit + 1) (orderedMap decode)
      (objectText (m.entries.map fun e => (e.1, encode e.2))) (m.map made) := by
  have members : ∀ member ∈ m.entries.map fun e => (e.1, encode e.2), IsClosed member.2 := by
    rw [List.forall_mem_map]
    exact fun e he => (spells e he).closed
  obtain ⟨closed, opened, deeper⟩ := nests_objectText members
  refine ⟨closed, fun allowed => ?_⟩
  obtain ⟨entered, kept⟩ := enter_of_keeps opened allowed
  obtain ⟨values, reads, members⟩ := exists_mapMembers spells fun e he =>
    kept _ (deeper _ (List.mem_map_of_mem he))
  refine ⟨_, reads_objectText reads, ?_⟩
  rw [orderedMap, entered]
  show (mapMembers (decode limit) .empty values >>= _) = _
  rw [members .empty (m.map made) rfl]
  rfl

theorem spells_orderedMap {decode : Decoder α} {encode : α → List Char} {m : OrderedMap α}
    (spells : ∀ e ∈ m.entries, Spells limit decode (encode e.2) e.2) :
    Spells (limit + 1) (orderedMap decode)
      (objectText (m.entries.map fun e => (e.1, encode e.2))) m := by
  have same : Spells (limit + 1) (orderedMap decode)
      (objectText (m.entries.map fun e => (e.1, encode e.2))) (m.map id) := spells_orderedMap_map spells
  rwa [OrderedMap.map_id] at same

/-! ## Records -/

/-- Whether members spell the fields of a record: they come in the order of the fields, and a field is
only left out if it has its default. -/
inductive SpellsFields (limit : Nat) :
    (fs : List Field) → List (String × List Char) → Fields fs → Prop
  | nil : SpellsFields limit [] [] ()
  | present {f : Field} {fs : List Field} {members : List (String × List Char)} {text : List Char}
      {x : f.type} {xs : Fields fs} (spells : Spells limit f.decode text x)
      (others : SpellsFields limit fs members xs) :
      SpellsFields limit (f :: fs) ((f.name, text) :: members) (x, xs)
  | omitted {f : Field} {fs : List Field} {members : List (String × List Char)}
      {x : f.type} {xs : Fields fs} (default : f.default? = some x)
      (others : SpellsFields limit fs members xs) : SpellsFields limit (f :: fs) members (x, xs)

section Records

variable {f : Field} {fs : List Field} {members : List (String × List Char)} {xs : Fields fs}

theorem SpellsFields.closed (h : SpellsFields limit fs members xs) :
    ∀ m ∈ members, IsClosed m.2 := by
  induction h with
  | nil => exact fun m hm => absurd hm List.not_mem_nil
  | present spells _ ih => exact List.forall_mem_cons.mpr ⟨spells.closed, ih⟩
  | omitted _ _ ih => exact ih

/-- Members only name fields. -/
theorem SpellsFields.absent (h : SpellsFields limit fs members xs) {name : String}
    (unknown : name ∉ fs.map Field.name) : name ∉ members.map Prod.fst := by
  induction h with
  | nil => exact List.not_mem_nil
  | present _ _ ih =>
      rw [List.map_cons, List.mem_cons, not_or] at unknown ⊢
      exact ⟨unknown.1, ih unknown.2⟩
  | omitted _ _ ih =>
      rw [List.map_cons, List.mem_cons, not_or] at unknown
      exact ih unknown.2

def Slots.cons (slot : Option f.type) (slots : Slots fs) : Slots (f :: fs) := (slot, slots)

theorem read_of_other {key : String} (other : f.name ≠ key) (v : Value) (slot : Option f.type)
    (slots : Slots fs) :
    Slots.read limit key v (f :: fs) (.cons slot slots)
      = (Slots.read limit key v fs slots).map (.cons slot) := by
  cases slot with
  | none => exact if_neg other
  | some x => exact if_neg other

theorem read_of_name (v : Value) (slots : Slots fs) :
    Slots.read limit f.name v (f :: fs) (.cons none slots)
      = (f.decode limit v).map fun x => .cons (some x) slots :=
  if_pos rfl

/-- A member is read into the slot of its field, which must still be empty, or into the slots of the
fields after it. -/
theorem read_cons_eq_ok {key : String} {v : Value} {slot : Option f.type} {slots : Slots fs}
    {whole : Slots (f :: fs)} :
    Slots.read limit key v (f :: fs) (.cons slot slots) = .ok whole ↔
      (f.name = key ∧ slot = none ∧ ∃ x, f.decode limit v = .ok x ∧ whole = .cons (some x) slots) ∨
      (f.name ≠ key ∧ ∃ rest, Slots.read limit key v fs slots = .ok rest ∧ whole = .cons slot rest) := by
  by_cases named : f.name = key
  · subst named
    simp only [ne_eq, not_true_eq_false, false_and, or_false, true_and]
    cases slot with
    | some x =>
        have taken : Slots.read limit f.name v (f :: fs) (.cons (some x) slots)
            = .error (.mismatch (.duplicateField f.name)) := if_pos rfl
        simp [taken]
    | none =>
        rw [read_of_name]
        cases f.decode limit v <;> simp [Except.map, eq_comm]
  · rw [read_of_other named]
    cases Slots.read limit key v fs slots <;> simp [Except.map, named, eq_comm]

theorem readAll_member (key : String) (v : Value) (slots : Slots fs)
    (values : List (Lexeme × Value)) :
    Slots.readAll limit fs slots ((lexemeOf key, v) :: values)
      = Slots.read limit key v fs slots >>= fun slots => Slots.readAll limit fs slots values := by
  rw [Slots.readAll, text_lexemeOf]
  rfl

/-- Members that do not name a field leave its slot as it is. -/
theorem readAll_of_absent {values : List (Lexeme × Value)}
    (absent : ∀ w ∈ values, w.1.text ≠ .ok f.name) (slot : Option f.type) (slots : Slots fs) :
    Slots.readAll limit (f :: fs) (.cons slot slots) values
      = (Slots.readAll limit fs slots values).map (.cons slot) := by
  induction values generalizing slots with
  | nil => rfl
  | cons w rest ih =>
      obtain ⟨key, v⟩ := w
      rw [List.forall_mem_cons] at absent
      rw [Slots.readAll, Slots.readAll]
      cases spelled : key.text with
      | error e => rfl
      | ok name =>
          have other : f.name ≠ name := by
            rintro rfl
            exact absent.1 spelled
          show (Slots.read limit name v (f :: fs) (.cons slot slots) >>= _) = _
          rw [read_of_other other]
          show _ = (Slots.read limit name v fs slots >>= _).map (Slots.cons slot)
          cases Slots.read limit name v fs slots with
          | error e => rfl
          | ok slots => exact ih absent.2 slots

theorem ne_of_readsMember {values : List (Lexeme × Value)}
    (reads : List.Forall₂ ReadsMember members values) {name : String}
    (absent : name ∉ members.map Prod.fst) : ∀ w ∈ values, w.1.text ≠ .ok name := by
  induction reads with
  | nil => exact List.forall_mem_nil _
  | cons first _ ih =>
      rw [List.map_cons, List.mem_cons, not_or] at absent
      refine List.forall_mem_cons.mpr ⟨fun same => absent.1 ?_, ih absent.2⟩
      rw [first.1, text_lexemeOf] at same
      exact (Except.ok.inj same).symm

/-- The members of a written record are read into the slots of their fields. -/
theorem SpellsFields.exists_slots (h : SpellsFields limit fs members xs)
    (distinct : (fs.map Field.name).Nodup) (kept : ∀ m ∈ members, nesting m.2 < limit) :
    ∃ values slots, List.Forall₂ ReadsMember members values ∧
      Slots.readAll limit fs (Slots.empty fs) values = .ok slots ∧ slots.complete fs = .ok xs := by
  induction h with
  | nil => exact ⟨[], (), .nil, rfl, rfl⟩
  | @present f fs members text x xs spells others ih =>
      rw [List.map_cons, List.nodup_cons] at distinct
      rw [List.forall_mem_cons] at kept
      obtain ⟨v, reads, decoded⟩ := spells.decoded kept.1
      obtain ⟨values, slots, later, read, complete⟩ := ih distinct.2 kept.2
      refine ⟨(lexemeOf f.name, v) :: values, .cons (some x) slots, .cons ⟨rfl, reads⟩ later, ?_, ?_⟩
      · rw [readAll_member]
        show Slots.read limit f.name v (f :: fs) (.cons none (Slots.empty fs)) >>= _ = _
        rw [read_of_name, decoded]
        show Slots.readAll limit (f :: fs) (.cons (some x) (Slots.empty fs)) values = _
        rw [readAll_of_absent (ne_of_readsMember later (others.absent distinct.1)), read]
        rfl
      · show (slots.complete fs >>= _) = _
        rw [complete]
        rfl
  | @omitted f fs members x xs default others ih =>
      rw [List.map_cons, List.nodup_cons] at distinct
      obtain ⟨values, slots, later, read, complete⟩ := ih distinct.2 kept
      refine ⟨values, .cons none slots, later, ?_, ?_⟩
      · show Slots.readAll limit (f :: fs) (.cons none (Slots.empty fs)) values = _
        rw [readAll_of_absent (ne_of_readsMember later (others.absent distinct.1)), read]
        rfl
      · rw [Slots.cons, Slots.complete, Option.none_or, default]
        show (slots.complete fs >>= _) = _
        rw [complete]
        rfl

theorem spells_record (what : String) (h : SpellsFields limit fs members xs)
    (distinct : (fs.map Field.name).Nodup) :
    Spells (limit + 1) (record what fs) (objectText members) xs := by
  obtain ⟨closed, opened, deeper⟩ := nests_objectText h.closed
  refine ⟨closed, fun allowed => ?_⟩
  obtain ⟨entered, kept⟩ := enter_of_keeps opened allowed
  obtain ⟨values, slots, reads, read, complete⟩ :=
    h.exists_slots distinct fun m hm => kept _ (deeper m hm)
  refine ⟨_, reads_objectText reads, ?_⟩
  rw [record, entered]
  show (Slots.readAll limit fs (Slots.empty fs) values >>= _) = _
  rw [read]
  exact complete

end Records

/-! ## Records written as arrays -/

inductive SpellsItems (limit : Nat) : (fs : List Field) → List (List Char) → Fields fs → Prop
  | nil : SpellsItems limit [] [] ()
  | cons {f : Field} {fs : List Field} {texts : List (List Char)} {text : List Char} {x : f.type}
      {xs : Fields fs} (spells : Spells limit f.decode text x)
      (others : SpellsItems limit fs texts xs) : SpellsItems limit (f :: fs) (text :: texts) (x, xs)

section Tuples

variable {fs : List Field} {texts : List (List Char)} {xs : Fields fs}

theorem SpellsItems.closed (h : SpellsItems limit fs texts xs) : ∀ text ∈ texts, IsClosed text := by
  induction h with
  | nil => exact fun text ht => absurd ht List.not_mem_nil
  | cons spells _ ih => exact List.forall_mem_cons.mpr ⟨spells.closed, ih⟩

theorem SpellsItems.exists_values (h : SpellsItems limit fs texts xs)
    (kept : ∀ text ∈ texts, nesting text < limit) :
    ∃ values, List.Forall₂ Reads texts values ∧ ∀ (expected : String) (count : Nat),
      Fields.readItems limit expected .closed fs count values = .ok xs := by
  induction h with
  | nil => exact ⟨[], .nil, fun _ _ => rfl⟩
  | cons spells _ ih =>
      rw [List.forall_mem_cons] at kept
      obtain ⟨v, reads, decoded⟩ := spells.decoded kept.1
      obtain ⟨values, others, items⟩ := ih kept.2
      refine ⟨v :: values, .cons reads others, fun expected count => ?_⟩
      rw [Fields.readItems, decoded]
      show (Fields.readItems limit expected .closed _ (count + 1) values >>= _) = _
      rw [items]
      rfl

theorem spells_tuple (what : String) (h : SpellsItems limit fs texts xs) :
    Spells (limit + 1) (tuple what fs) (arrayText texts) xs := by
  obtain ⟨closed, opened, deeper⟩ := nests_bracketed (Or.inl rfl) (Or.inl rfl) h.closed
  refine ⟨closed, fun allowed => ?_⟩
  obtain ⟨entered, kept⟩ := enter_of_keeps opened allowed
  obtain ⟨values, reads, items⟩ := h.exists_values fun text ht => kept _ (deeper text ht)
  refine ⟨_, reads_arrayText reads, ?_⟩
  rw [tuple, entered]
  exact items _ 0

end Tuples

/-! ## Documents -/

/-- A text that spells something is a document of it, unless it nests too deep. -/
theorem decodeText_of_spells {decode : Decoder α} {text : List Char} {x : α}
    (h : Spells nestingLimit decode text x) (shallow : nesting text < nestingLimit) :
    decodeText decode (String.ofList text) = .ok x := by
  obtain ⟨v, reads, decoded⟩ := h.decoded shallow
  have read := reads.read (2 * text.length + 2) [] (by omega) endsNumeral_nil
  rw [List.append_nil] at read
  rw [decodeText, String.toList_ofList, readPrefixValue, read]
  show (decode nestingLimit v >>= _) = _
  rw [decoded]
  rfl

end Viewsmith.Json
