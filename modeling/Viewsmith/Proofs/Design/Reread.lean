import Mathlib.Data.List.Forall2
import Viewsmith.Proofs.Design.NumbersReread
import Viewsmith.Proofs.Json.Members

/-!
# Documents that are written and read again

A document that has been read can be written and read again, whatever it holds: its numbers are finite, and it
does not nest deeper than the text it was read from. Only its numbers may change, each to the one that its own
text is read as (`parse_toJson_of_parse`).
-/

namespace Viewsmith

open Json

/-! ## What is read again -/

def Literal.reread : Literal → Literal
  | .number x => .number (rereadNumber x)
  | .text s => .text s

mutual
def Node.reread : Node → Node
  | ⟨kind, name, page, layout, children, styles, characters⟩ =>
      ⟨kind, name, page, layout, Node.rereadAll children, styles.map Literal.reread, characters⟩

def Node.rereadAll : List Node → List Node
  | [] => []
  | n :: rest => n.reread :: Node.rereadAll rest
end

def StateEntry.reread (e : StateEntry) : StateEntry := { e with value := e.value.reread }

def LocalState.reread (state : LocalState) : LocalState :=
  state.map fun page => page.map fun entries => entries.map StateEntry.reread

def Design.reread (d : Design) : Design := ⟨d.root.reread, d.localState.map LocalState.reread⟩

theorem rereadAll_eq_map (ns : List Node) : Node.rereadAll ns = ns.map Node.reread := by
  induction ns with
  | nil => rfl
  | cons n rest ih => rw [Node.rereadAll, ih, List.map_cons]

/-! ## Texts that keep the limit -/

/-- Whether a text spells something for a decoder and nests no deeper than the decoder goes. -/
structure Fits {α : Type} (limit : Nat) (decode : Decoder α) (text : List Char) (x : α) : Prop
    extends Spells limit decode text x where
  shallow : nesting text ≤ limit - 1

/-- Whether members spell the fields of a record and nest no deeper than the decoders of the fields go. -/
structure FitsFields (limit : Nat) (fs : List Field) (members : List (String × List Char)) (xs : Fields fs) :
    Prop where
  spells : SpellsFields limit fs members xs
  shallow : ∀ m ∈ members, nesting m.2 ≤ limit - 1

/-- Whether everything that a decoder makes of a value is written so that the decoder reads it again. -/
def Rewrites {α : Type} (limit : Nat) (decode : Decoder α) (encode : α → List Char) (again : α → α) : Prop :=
  ∀ ⦃v x⦄, decode limit v = .ok x → Fits limit decode (encode x) (again x)

/-- Only what a decoder does under the limit matters. -/
theorem Rewrites.congr {α : Type} {limit : Nat} {decode decode' : Decoder α} {encode : α → List Char}
    {again : α → α} (h : Rewrites limit decode encode again) (same : decode limit = decode' limit) :
    Rewrites limit decode' encode again := by
  intro v x decoded
  rw [← same] at decoded
  have fits := h decoded
  exact ⟨fits.toSpells.congr same, fits.shallow⟩

section Records

variable {α : Type} {limit : Nat} {f : Field} {fs : List Field} {members : List (String × List Char)}
  {xs : Fields fs}

theorem fitsFields_nil : FitsFields limit [] [] () := ⟨.nil, List.forall_mem_nil _⟩

theorem FitsFields.present {text : List Char} {x : f.type} (first : Fits limit f.decode text x)
    (others : FitsFields limit fs members xs) :
    FitsFields limit (f :: fs) ((f.name, text) :: members) (x, xs) :=
  ⟨.present first.toSpells others.spells, List.forall_mem_cons.mpr ⟨first.shallow, others.shallow⟩⟩

theorem FitsFields.omitted {x : f.type} (default : f.default? = some x)
    (others : FitsFields limit fs members xs) : FitsFields limit (f :: fs) members (x, xs) :=
  ⟨.omitted default others.spells, others.shallow⟩

theorem fitsFields_optionalMember {decode : Decoder α} {encode : α → List Char} {x y : Option α} (name : String)
    (fits : Option.Rel (fun a b => Fits limit decode (encode a) b) x y)
    (refuses : ∀ b, decode limit .null ≠ .ok b) (others : FitsFields limit fs members xs) :
    FitsFields limit (⟨name, Option α, optional decode, some none⟩ :: fs)
      (optionalMember name encode x ++ members) (y, xs) := by
  cases fits with
  | none => exact .omitted rfl others
  | some fits => exact .present ⟨fits.toSpells.optional (refuses _), fits.shallow⟩ others

theorem fitsFields_memberUnless {decode : Decoder α} {omitted : Bool} {text : List Char} {x default : α}
    (name : String) (same : omitted = true → default = x) (fits : omitted = false → Fits limit decode text x)
    (others : FitsFields limit fs members xs) :
    FitsFields limit (⟨name, α, decode, some default⟩ :: fs)
      (memberUnless omitted name text ++ members) (x, xs) := by
  cases omitted with
  | true => exact .omitted (congrArg some (same rfl)) others
  | false => exact .present (fits rfl) others

/-- A record keeps the limit if its fields keep the next lower one. -/
theorem fits_record (what : String) (opened : 2 ≤ limit) (fields : FitsFields (limit - 1) fs members xs)
    (distinct : (fs.map Field.name).Nodup) : Fits limit (record what fs) (objectText members) xs where
  toSpells := by
    have spells := spells_record what fields.spells distinct
    rwa [Nat.sub_add_cancel (by omega)] at spells
  shallow := by
    have bound := nesting_objectText_le fields.spells.closed fields.shallow
    omega

end Records

section Lists

variable {α : Type} {limit : Nat} {decode : Decoder α} {encode : α → List Char} {again : α → α}

theorem Rewrites.sequence (h : Rewrites (limit - 1) decode encode again) :
    Rewrites limit (sequence decode) (fun xs => arrayText (xs.map encode)) (List.map again) := by
  intro v xs decoded
  obtain ⟨opened, items, rfl, made⟩ := sequence_eq_ok decoded
  have fits : ∀ x ∈ xs, Fits (limit - 1) decode (encode x) (again x) :=
    ((List.forall₂_and_left _ _).mp (made.flip.imp fun _ _ decoded => ⟨h decoded, decoded⟩)).1
  refine ⟨?_, ?_⟩
  · have spells := spells_sequence_map fun x hx => (fits x hx).toSpells
    rwa [Nat.sub_add_cancel (by omega)] at spells
  · have bound : nesting (arrayText (xs.map encode)) ≤ limit - 1 - 1 + 1 := by
      refine nesting_bracketed_le (Or.inl rfl) (Or.inl rfl) ?_ ?_
      · exact List.forall_mem_map.mpr fun x hx => (fits x hx).closed
      · exact List.forall_mem_map.mpr fun x hx => (fits x hx).shallow
    show nesting (arrayText (xs.map encode)) ≤ limit - 1
    omega

theorem Rewrites.orderedMap (h : Rewrites (limit - 1) decode encode again) :
    Rewrites limit (orderedMap decode) (encodeMap encode) (OrderedMap.map again) := by
  intro v m decoded
  obtain ⟨opened, entries⟩ := orderedMap_eq_ok decoded
  have fits : ∀ e ∈ m.entries, Fits (limit - 1) decode (encode e.2) (again e.2) := by
    intro e he
    have found := entries e.1
    rw [OrderedMap.find?_eq_some.mpr he] at found
    generalize v.member? e.1 = value? at found
    cases found with
    | some decoded => exact h decoded
  refine ⟨?_, ?_⟩
  · have spells := spells_orderedMap_map fun e he => (fits e he).toSpells
    rwa [Nat.sub_add_cancel (by omega)] at spells
  · have bound : nesting (encodeMap encode m) ≤ limit - 1 - 1 + 1 := by
      refine nesting_objectText_le ?_ ?_
      · exact List.forall_mem_map.mpr fun e he => (fits e he).closed
      · exact List.forall_mem_map.mpr fun e he => (fits e he).shallow
    omega

end Lists

/-! ## Values -/

section Values

variable {limit : Nat}

theorem fits_quoted {α : Type} {decode : Decoder α} {s : String} {x : α}
    (spells : Spells limit decode (quoted s) x) : Fits limit decode (quoted s) x where
  toSpells := spells
  shallow := (nests_quoted s).nesting_eq.trans_le (Nat.zero_le _)

theorem value_of_data {v : Value} {n : Number} (read : v.data limit = .ok (.number n)) :
    ∃ numeral, v = .number numeral ∧ numeral.value? = some n := by
  cases v with
  | number numeral =>
      rw [Value.data] at read
      split at read
      · cases read
        exact ⟨numeral, rfl, by assumption⟩
      · cases read
  | string lexeme =>
      rw [Value.data] at read
      cases spelled : lexeme.text with
      | ok s =>
          rw [spelled] at read
          cases read
      | error f =>
          rw [spelled] at read
          cases read
  | array | object =>
      simp only [Value.data, bind_eq_ok] at read
      obtain ⟨_, -, _, -, _, -, same⟩ := read
      cases same
  | null | bool | absent | cutNumeral | unreadable =>
      rw [Value.data] at read
      cases read

/-- A number or a text is read again from its text. -/
theorem rewrites_literal : Rewrites limit decodeLiteral Literal.encode Literal.reread := by
  intro v x decoded
  unfold decodeLiteral at decoded
  split at decoded
  · rename_i n data
    obtain rfl := Except.ok.inj decoded
    obtain ⟨source, -, value⟩ := value_of_data data
    have finite := isFinite_value value
    obtain ⟨numeral, y, writes, -⟩ := exists_numeral_documentText finite
    exact ⟨spells_number (readNumber_documentText finite),
      (nests_of_writesNumeral writes).nesting_eq.trans_le (Nat.zero_le _)⟩
  · rename_i s _
    obtain rfl := Except.ok.inj decoded
    have spells : Spells limit decodeLiteral (Literal.text s).encode (.text s) :=
      spells_literal (List.forall_mem_nil _)
    exact fits_quoted spells
  · cases decoded
  · cases decoded

/-- What a field with a default has is decoded from a value, or it is the default. -/
theorem fits_of_made {α : Type} {decode : Decoder α} {encode : α → List Char} {again : α → α}
    (h : Rewrites limit decode encode again) {value? : Option Value} {x default : α}
    (made : (∃ w, value? = some w ∧ decode limit w = .ok x) ∨ (value? = none ∧ some default = some x))
    (present : x ≠ default) : Fits limit decode (encode x) (again x) := by
  rcases made with ⟨w, -, decoded⟩ | ⟨-, same⟩
  · exact h decoded
  · exact absurd (Option.some.inj same).symm present

theorem fits_of_made_optional {α : Type} {decode : Decoder α} {encode : α → List Char} {again : α → α}
    (h : Rewrites limit decode encode again) {value? : Option Value} {x : Option α}
    (made : (∃ w, value? = some w ∧ optional decode limit w = .ok x) ∨ (value? = none ∧ some none = some x)) :
    Option.Rel (fun a b => Fits limit decode (encode a) b) x (x.map again) := by
  cases x with
  | none => exact .none
  | some y =>
      obtain ⟨w, -, decoded⟩ := made.resolve_right fun default => by cases default.2
      unfold Json.optional at decoded
      split at decoded
      · cases decoded
      · cases inside : decode limit w with
        | error e =>
            rw [inside] at decoded
            cases decoded
        | ok z =>
            rw [inside] at decoded
            cases decoded
            exact .some (h inside)

theorem rewrites_page : Rewrites limit decodePage encodePage id := by
  intro v name decoded
  obtain ⟨⟨text, ⟨⟩⟩, read, same⟩ := bind_eq_ok.mp decoded
  obtain rfl := Except.ok.inj same
  obtain ⟨opened, -, -⟩ := madeOf_record (by decide) read
  have fields : FitsFields (limit - 1) pageFields [("name", quoted text)] (text, ()) :=
    .present (fits_quoted (spells_string text)) fitsFields_nil
  have fits := fits_record "struct PageRef" opened fields (by decide)
  exact ⟨fits.toSpells.bind rfl, fits.shallow⟩

end Values

/-! ## Nodes -/

section Nodes

variable {limit : Nat}

/-- The members of a node are those of its fields that do not have their defaults. -/
theorem fitsFields_members {n : Node} {child : Decoder Node}
    (page : Option.Rel (fun a b => Fits limit decodePage (encodePage a) b) n.page n.page)
    (children : n.children ≠ [] →
      Fits limit (sequence child) (arrayText (n.children.map Node.encode)) (n.children.map Node.reread))
    (styles : n.styles ≠ .empty →
      Fits limit (orderedMap decodeLiteral) (encodeMap Literal.encode n.styles) (n.styles.map Literal.reread)) :
    FitsFields limit (nodeFields child) n.members
      (n.kind, n.name, n.page, n.layout, n.children.map Node.reread, n.styles.map Literal.reread, n.characters,
        ()) := by
  have characters : Option.Rel (fun a b => Fits limit string (quoted a) b) n.characters n.characters := by
    cases n.characters with
    | none => exact .none
    | some text => exact .some (fits_quoted (spells_string text))
  refine .present (fits_quoted (spells_kind n.kind)) (.present (fits_quoted (spells_string n.name)) ?_)
  refine fitsFields_optionalMember "page" page ?_ ?_
  · intro page refused
    cases refused
  refine .present (fits_quoted (spells_layout n.layout)) ?_
  refine fitsFields_memberUnless "children" ?_ ?_ (fitsFields_memberUnless "styles" ?_ ?_ ?_)
  · intro empty
    rw [List.isEmpty_iff.mp empty]
    rfl
  · exact fun some => children (List.isEmpty_eq_false_iff.mp some)
  · intro empty
    rw [OrderedMap.ext (n := .empty) (List.isEmpty_iff.mp empty)]
    rfl
  · exact fun some => styles fun empty => by rw [empty] at some; cases some
  · refine fitsFields_optionalMember "characters" characters ?_ fitsFields_nil
    intro text refused
    cases refused

theorem rewrites_nodeWith {child : Decoder Node} (h : Rewrites (limit - 1 - 1) child Node.encode Node.reread) :
    Rewrites limit (decodeNodeWith child) Node.encode Node.reread := by
  intro v n decoded
  obtain ⟨⟨kind, name, page, layout, children, styles, characters, ⟨⟩⟩, read, same⟩ := bind_eq_ok.mp decoded
  obtain rfl := Except.ok.inj same
  obtain ⟨opened, -, -, page', -, children', styles', -, -⟩ := madeOf_record (nodup_nodeFields child) read
  have paged := fits_of_made_optional rewrites_page page'
  rw [Option.map_id] at paged
  have fields := fitsFields_members (n := ⟨kind, name, page, layout, children, styles, characters⟩) paged
    (fits_of_made h.sequence children') (fits_of_made rewrites_literal.orderedMap styles')
  have fits := fits_record "struct Node" opened fields (nodup_nodeFields child)
  rw [Node.encode_eq, Node.reread, rereadAll_eq_map]
  exact ⟨fits.toSpells.bind rfl, fits.shallow⟩

theorem rewrites_refusal : Rewrites limit (fun _ _ => (.error (.fault .malformed) : Decoded Node))
    Node.encode Node.reread := by
  intro v n refused
  cases refused

theorem rewrites_node : ∀ limit, Rewrites limit decodeNode Node.encode Node.reread
  | 0 => (rewrites_nodeWith rewrites_refusal).congr rfl
  | 1 => (rewrites_nodeWith rewrites_refusal).congr rfl
  | limit + 2 => by
      have children : Rewrites (limit + 2 - 1 - 1) (fun _ => decodeNode limit) Node.encode Node.reread :=
        (rewrites_node limit).congr rfl
      exact (rewrites_nodeWith children).congr rfl

end Nodes

/-! ## Documents -/

section Documents

variable {limit : Nat}

theorem rewrites_stateEntry : Rewrites limit decodeStateEntry StateEntry.encode StateEntry.reread := by
  intro v e decoded
  obtain ⟨⟨name, value, ⟨⟩⟩, read, same⟩ := bind_eq_ok.mp decoded
  obtain rfl := Except.ok.inj same
  obtain ⟨opened, -, made, -⟩ := madeOf_tuple read
  obtain ⟨w, -, decoded⟩ := made.resolve_right fun default => by cases default.2
  have literal := rewrites_literal decoded
  have items : SpellsItems (limit - 1) stateEntryFields [quoted name, value.encode] (name, value.reread, ()) :=
    .cons (spells_string name) (.cons literal.toSpells .nil)
  refine ⟨?_, ?_⟩
  · have spells := spells_tuple "tuple struct StateEntry" items
    rw [Nat.sub_add_cancel (by omega)] at spells
    exact spells.bind rfl
  · have bound : nesting (arrayText [quoted name, value.encode]) ≤ limit - 1 - 1 + 1 := by
      refine nesting_bracketed_le (Or.inl rfl) (Or.inl rfl) items.closed ?_
      have short := fits_quoted (@spells_string (limit - 1) name)
      exact List.forall_mem_cons.mpr ⟨short.shallow, List.forall_mem_singleton.mpr literal.shallow⟩
    show nesting (arrayText [quoted name, value.encode]) ≤ limit - 1
    omega

theorem rewrites_localState : Rewrites limit decodeLocalState encodeLocalState LocalState.reread :=
  rewrites_stateEntry.sequence.orderedMap.orderedMap

theorem rewrites_root : Rewrites limit decodeRoot (fun n => objectText [("node", n.encode)]) Node.reread := by
  intro v n decoded
  obtain ⟨⟨node, ⟨⟩⟩, read, same⟩ := bind_eq_ok.mp decoded
  obtain rfl := Except.ok.inj same
  obtain ⟨opened, made, -⟩ := madeOf_record (by simp [rootFields]) read
  obtain ⟨w, -, decoded⟩ := made.resolve_right fun default => by cases default.2
  have fields : FitsFields (limit - 1) rootFields [("node", node.encode)] (node.reread, ()) :=
    .present (rewrites_node _ decoded) fitsFields_nil
  have fits := fits_record "struct ParseRoot" opened fields (by simp [rootFields])
  exact ⟨fits.toSpells.bind rfl, fits.shallow⟩

theorem rewrites_design : Rewrites limit decodeDesign Design.encode Design.reread := by
  intro v d decoded
  obtain ⟨⟨root, localState, ⟨⟩⟩, read, same⟩ := bind_eq_ok.mp decoded
  obtain rfl := Except.ok.inj same
  obtain ⟨opened, made, state, -⟩ := madeOf_record (by simp [designFields]) read
  obtain ⟨w, -, decoded⟩ := made.resolve_right fun default => by cases default.2
  have fields : FitsFields (limit - 1) designFields
      (("root", objectText [("node", root.encode)])
        :: (optionalMember "localState" encodeLocalState localState ++ []))
      (root.reread, localState.map LocalState.reread, ()) := by
    refine .present (rewrites_root decoded) ?_
    refine fitsFields_optionalMember "localState" (fits_of_made_optional rewrites_localState state) ?_
      fitsFields_nil
    intro state refused
    cases refused
  rw [List.append_nil] at fields
  have fits := fits_record "struct ParseData" opened fields (by simp [designFields])
  exact ⟨fits.toSpells.bind rfl, fits.shallow⟩

end Documents

/-- A document that has been read can be written and read again, and only its numbers may change. -/
theorem parse_toJson_of_parse {text : String} {d : Design} (decoded : Design.parse text = .ok d) :
    Design.parse d.toJson = .ok d.reread := by
  obtain ⟨x, made, read⟩ := bind_eq_ok.mp decoded
  obtain ⟨-, -, same⟩ := bind_eq_ok.mp read
  obtain rfl := Except.ok.inj same
  have fits := rewrites_design made
  exact decodeText_of_spells fits.toSpells (Nat.lt_succ_of_le fits.shallow)

end Viewsmith
