import Viewsmith.Proofs.Design.Positions
import Viewsmith.Proofs.Design.Records
import Viewsmith.Proofs.Design.Reread

/-!
# Whole numbers in documents

A value of a document stands at a place: among the styles of a node, or among the state entries of a component.
What a document holds at a place is decoded from the value that its text holds there
(`literalAt_of_decoded`). So a style or a state entry that is spelled as a whole number of up to 53 bits is
that number, and is the same number after the document has been written and read again, unless its last
place is lost (`wholeNumbers_of_parse`).
-/

namespace Viewsmith

open Json Decimal

/-! ## Places -/

/-- Where a document holds a value. A node is found by its way down from the root, by the positions of the
children on it. -/
inductive Place : Type where
  | style (path : List Nat) (property : String)
  | state (page component : String) (index : Nat)
deriving DecidableEq, Repr

def Design.literalAt? (d : Design) : Place → Option Literal
  | .style path property => (d.root.at? path).bind (·.styles.find? property)
  | .state page component i => ((d.stateFor page component).bind (·[i]?)).map StateEntry.value

def Json.Value.nodeAt? : Value → List Nat → Option Value
  | v, [] => some v
  | v, i :: path => ((v.field? 4 "children").bind (·.item? i)).bind (·.nodeAt? path)

def Json.Value.literalAt? (v : Value) : Place → Option Value
  | .style path property =>
      ((((v.field? 0 "root").bind (·.field? 0 "node")).bind (·.nodeAt? path)).bind (·.field? 5 "styles")).bind
        (·.member? property)
  | .state page component i =>
      ((((v.field? 1 "localState").bind (·.member? page)).bind (·.member? component)).bind (·.item? i)).bind
        (·.field? 1 "value")

/-! ## What is decoded at a place -/

section Decoded

variable {limit : Nat} {v w : Value}

theorem getElem?_of_forall₂ {α β : Type} {R : α → β → Prop} {xs : List α} {ys : List β}
    (h : List.Forall₂ R xs ys) {i : Nat} {x : α} (found : xs[i]? = some x) : ∃ y, ys[i]? = some y ∧ R x y := by
  induction h generalizing i with
  | nil => cases found
  | @cons a b xs ys first _ ih =>
      cases i with
      | zero =>
          obtain rfl := Option.some.inj found
          exact ⟨b, rfl, first⟩
      | succ i => exact ih found

/-- A field that is there is decoded from its value. -/
theorem decoded_of_made {α : Type} {decode : Decoder α} {value? default? : Option _} {x : α}
    (made : (∃ w, value? = some w ∧ decode limit w = .ok x) ∨ (value? = none ∧ default? = some x))
    (found : value? = some w) : decode limit w = .ok x := by
  rcases made with ⟨u, same, decoded⟩ | ⟨none, -⟩
  · rw [found] at same
    obtain rfl := Option.some.inj same
    exact decoded
  · rw [found] at none
    cases none

theorem item_of_sequence {α : Type} {decode : Decoder α} {xs : List α}
    (decoded : sequence decode limit v = .ok xs) {i : Nat} (found : v.item? i = some w) :
    ∃ x, xs[i]? = some x ∧ decode (limit - 1) w = .ok x := by
  obtain ⟨-, items, rfl, made⟩ := sequence_eq_ok decoded
  exact getElem?_of_forall₂ made found

theorem entry_of_orderedMap {α : Type} {decode : Decoder α} {m : OrderedMap α}
    (decoded : orderedMap decode limit v = .ok m) {name : String} (found : v.member? name = some w) :
    ∃ x, m.find? name = some x ∧ decode (limit - 1) w = .ok x := by
  have entry := (orderedMap_eq_ok decoded).2 name
  rw [found] at entry
  generalize m.find? name = x? at entry
  cases entry with
  | some decoded => exact ⟨_, rfl, decoded⟩

/-- The children and the styles of a node are decoded from those of its value. -/
theorem fields_of_nodeWith {n : Node} {child : Decoder Node} (decoded : decodeNodeWith child limit v = .ok n) :
    2 ≤ limit ∧ (∀ w, v.field? 4 "children" = some w → sequence child (limit - 1) w = .ok n.children) ∧
      ∀ w, v.field? 5 "styles" = some w → orderedMap decodeLiteral (limit - 1) w = .ok n.styles := by
  obtain ⟨⟨kind, name, page, layout, children, styles, characters, ⟨⟩⟩, read, same⟩ := bind_eq_ok.mp decoded
  obtain rfl := Except.ok.inj same
  obtain ⟨opened, -, -, -, -, children', styles', -, -⟩ := madeOf_record (nodup_nodeFields child) read
  exact ⟨opened, fun w found => decoded_of_made children' found, fun w found => decoded_of_made styles' found⟩

/-- A node is decoded with a decoder of nodes for its children. -/
theorem nodeWith_of_decoded {n : Node} (decoded : decodeNode limit v = .ok n) :
    ∃ inner, decodeNodeWith (fun _ => decodeNode inner) limit v = .ok n := by
  rcases limit with _ | _ | limit
  · exact absurd (fields_of_nodeWith decoded).1 (by decide)
  · exact absurd (fields_of_nodeWith decoded).1 (by decide)
  · exact ⟨limit, decoded⟩

theorem node_at {n : Node} {path : List Nat} (decoded : decodeNode limit v = .ok n)
    (found : v.nodeAt? path = some w) : ∃ inner m, n.at? path = some m ∧ decodeNode inner w = .ok m := by
  induction path generalizing limit v n with
  | nil =>
      obtain rfl := Option.some.inj found
      exact ⟨limit, n, rfl, decoded⟩
  | cons i path ih =>
      obtain ⟨child, item, deeper⟩ := Option.bind_eq_some_iff.mp found
      obtain ⟨children, field, item⟩ := Option.bind_eq_some_iff.mp item
      obtain ⟨inner, decoded⟩ := nodeWith_of_decoded decoded
      obtain ⟨c, at_i, decoded⟩ := item_of_sequence ((fields_of_nodeWith decoded).2.1 _ field) item
      obtain ⟨inner', m, at_path, decoded⟩ := ih decoded deeper
      refine ⟨inner', m, ?_, decoded⟩
      rw [Node.at?, at_i]
      exact at_path

theorem node_of_root {n : Node} (decoded : decodeRoot limit v = .ok n) (found : v.field? 0 "node" = some w) :
    decodeNode (limit - 1) w = .ok n := by
  obtain ⟨⟨node, ⟨⟩⟩, read, same⟩ := bind_eq_ok.mp decoded
  obtain rfl := Except.ok.inj same
  obtain ⟨-, made, -⟩ := madeOf_record (by simp [rootFields]) read
  exact decoded_of_made made found

theorem value_of_stateEntry {e : StateEntry} (decoded : decodeStateEntry limit v = .ok e)
    (found : v.field? 1 "value" = some w) : decodeLiteral (limit - 1) w = .ok e.value := by
  obtain ⟨⟨name, value, ⟨⟩⟩, read, same⟩ := bind_eq_ok.mp decoded
  obtain rfl := Except.ok.inj same
  obtain ⟨-, -, made, -⟩ := madeOf_tuple read
  exact decoded_of_made made found

/-- Local state that has a member is not null. -/
theorem localState_of_optional {state? : Option LocalState}
    (decoded : optional decodeLocalState limit v = .ok state?) {name : String}
    (found : v.member? name = some w) :
    ∃ state, state? = some state ∧ decodeLocalState limit v = .ok state := by
  have visible : v ≠ .null := by
    rintro rfl
    cases found
  rw [optional_of_ne_null visible] at decoded
  cases inside : decodeLocalState limit v with
  | error e =>
      rw [inside] at decoded
      cases decoded
  | ok state =>
      rw [inside] at decoded
      exact ⟨state, (Except.ok.inj decoded).symm, rfl⟩

/-- What a document holds at a place is decoded from the value there. -/
theorem literalAt_of_decoded {d : Design} {place : Place} (decoded : decodeDesign limit v = .ok d)
    (found : v.literalAt? place = some w) :
    ∃ inner x, d.literalAt? place = some x ∧ decodeLiteral inner w = .ok x := by
  obtain ⟨⟨root, localState, ⟨⟩⟩, read, same⟩ := bind_eq_ok.mp decoded
  obtain rfl := Except.ok.inj same
  obtain ⟨-, made, stated, -⟩ := madeOf_record (by simp [designFields]) read
  cases place with
  | style path property =>
      simp only [Value.literalAt?, Option.bind_eq_some_iff] at found
      obtain ⟨styles, ⟨n, ⟨node, ⟨rootValue, field, inside⟩, at_path⟩, styled⟩, member⟩ := found
      obtain ⟨inner, m, found, decoded⟩ := node_at (node_of_root (decoded_of_made made field) inside) at_path
      obtain ⟨child, decoded⟩ := nodeWith_of_decoded decoded
      obtain ⟨x, entry, decoded⟩ := entry_of_orderedMap ((fields_of_nodeWith decoded).2.2 _ styled) member
      refine ⟨_, x, ?_, decoded⟩
      rw [Design.literalAt?, found]
      exact entry
  | state page component i =>
      simp only [Value.literalAt?, Option.bind_eq_some_iff] at found
      obtain ⟨entry, ⟨entries, ⟨components, ⟨pages, field, paged⟩, named⟩, item⟩, value⟩ := found
      obtain ⟨state, rfl, pages'⟩ := localState_of_optional (decoded_of_made stated field) paged
      obtain ⟨m, at_page, decoded⟩ := entry_of_orderedMap pages' paged
      obtain ⟨es, at_component, decoded⟩ := entry_of_orderedMap decoded named
      obtain ⟨e, at_i, decoded⟩ := item_of_sequence decoded item
      refine ⟨_, e.value, ?_, value_of_stateEntry decoded value⟩
      have entries : Design.stateFor ⟨root, some state⟩ page component = some es :=
        (congrArg (Option.bind · _) at_page).trans at_component
      rw [Design.literalAt?, entries, Option.bind_some, at_i]
      rfl

end Decoded

/-! ## What is read again at a place -/

theorem Node.children_reread (n : Node) : n.reread.children = n.children.map Node.reread := by
  obtain ⟨kind, name, page, layout, children, styles, characters⟩ := n
  exact rereadAll_eq_map children

theorem Node.styles_reread (n : Node) : n.reread.styles = n.styles.map Literal.reread := by
  cases n
  rfl

theorem Node.at?_reread (n : Node) (path : List Nat) : n.reread.at? path = (n.at? path).map Node.reread := by
  induction path generalizing n with
  | nil => rfl
  | cons i path ih =>
      rw [Node.at?, Node.at?, n.children_reread, List.getElem?_map]
      cases n.children[i]? with
      | none => rfl
      | some child => exact ih child

theorem Design.stateFor_reread (d : Design) (page component : String) :
    d.reread.stateFor page component = (d.stateFor page component).map (List.map StateEntry.reread) := by
  obtain ⟨root, localState⟩ := d
  cases localState with
  | none => rfl
  | some state =>
      show ((state.map _).find? page).bind _ = ((state.find? page).bind _).map _
      rw [OrderedMap.find?_map]
      cases state.find? page with
      | none => rfl
      | some components => exact OrderedMap.find?_map _ components component

/-- At every place stands what the value there is read again as. -/
theorem Design.literalAt?_reread (d : Design) (place : Place) :
    d.reread.literalAt? place = (d.literalAt? place).map Literal.reread := by
  cases place with
  | style path property =>
      show (d.root.reread.at? path).bind _ = ((d.root.at? path).bind _).map _
      rw [Node.at?_reread]
      cases d.root.at? path with
      | none => rfl
      | some n =>
          show n.reread.styles.find? property = _
          rw [n.styles_reread, OrderedMap.find?_map]
          rfl
  | state page component i =>
      rw [Design.literalAt?, Design.literalAt?, Design.stateFor_reread]
      cases d.stateFor page component with
      | none => rfl
      | some entries =>
          show ((entries.map StateEntry.reread)[i]?).map _ = ((entries[i]?).map _).map _
          rw [List.getElem?_map]
          cases entries[i]? <;> rfl

/-! ## Whole numbers -/

/-- The numeral of a whole number: its digits, with a minus sign if it is negative. -/
def integerNumeral (n : Int) : Numeral := ⟨decide (n < 0), Nat.toDigits 10 n.natAbs, [], none⟩

section Integers

variable {n : Int}

theorem writes_integerNumeral (n : Int) :
    WritesNumeral (integerNumeral n) (signed (decide (n < 0)) (Nat.toDigits 10 n.natAbs)) := by
  have plain : WritesNumeral ⟨false, Nat.toDigits 10 n.natAbs, [], none⟩
      (Nat.toDigits 10 n.natAbs ++ ([] ++ [])) :=
    .mk (isDigits_toDigits _) (toDigits_of_head?_zero _) .none .none
  rw [List.append_nil, List.append_nil] at plain
  exact writes_signed plain rfl _

def integerFloat (n : Int) : Float := withSign (decide (n < 0)) n.natAbs.toUInt64.toFloat

section Bounded

variable (bounded : n.natAbs ≤ 2 ^ 53)

include bounded

theorem value_integerNumeral :
    (integerNumeral n).value? = some (if n < 0 then .negative n.natAbs else .natural n.natAbs) := by
  have digits : Nat.ofDigitChars 10 (Nat.toDigits 10 n.natAbs) 0 = n.natAbs := Nat.ofDigitChars_ten_toDigits
  have fits : Nat.ofDigitChars 10 (Nat.toDigits 10 n.natAbs) 0 < wordLimit := by
    rw [digits]
    exact bounded.trans_lt (by decide)
  have whole : gather 0 (integerNumeral n).whole = (n.natAbs, []) := (gather_of_lt fits).trans (by rw [digits])
  have plain : (integerNumeral n).fraction.isEmpty = true ∧ (integerNumeral n).exponent.isNone = true ∧
      ([] : List Char).isEmpty = true := ⟨rfl, rfl, rfl⟩
  have sign : (integerNumeral n).negative = decide (n < 0) := rfl
  rw [Numeral.value?, whole]
  simp only [if_pos plain, sign, decide_eq_true_eq]
  split
  · have small : ¬ (n.natAbs = 0 ∨ wordLimit / 2 < n.natAbs) := by
      rw [wordLimit]
      omega
    rw [if_neg small]
  · rfl

theorem decodeLiteral_integer (limit : Nat) :
    decodeLiteral limit (.number (integerNumeral n)) = .ok (.number (integerFloat n)) := by
  have value := value_integerNumeral bounded
  simp only [decodeLiteral, Value.data, value, integerFloat, withSign, decide_eq_true_eq]
  split <;> rfl

/-- The double of a whole number of up to 53 bits is the number. -/
theorem value_integerFloat : (parts (integerFloat n)).value = n := by
  rw [integerFloat, value_whole bounded]
  by_cases negative : n < 0
  · rw [decide_eq_true negative, cond_true, ← Int.cast_natCast, Int.ofNat_natAbs_of_nonpos negative.le,
      Int.cast_neg, neg_neg]
  · rw [decide_eq_false negative, cond_false, ← Int.cast_natCast, Int.natAbs_of_nonneg (Int.not_lt.mp negative)]

theorem isFinite_integerFloat : (integerFloat n).isFinite = true := by
  have finite := isFinite_value (value_integerNumeral bounded)
  rw [integerFloat, withSign]
  split at finite
  · rename_i negative
    rw [decide_eq_true negative]
    exact finite
  · rename_i natural
    rw [decide_eq_false natural]
    exact finite

end Bounded

end Integers

/-- A document that has been read can be written and read again. Wherever its text spells a style or a state
entry as a whole number of up to 53 bits, the document holds that number, and holds the same number after it has
been read again, unless its last place is lost. -/
theorem wholeNumbers_of_parse {text : String} {d : Design} (decoded : Design.parse text = .ok d) :
    ∃ v again, IsDocument v text.toList ∧ Design.parse d.toJson = .ok again ∧
      ∀ (place : Place) (n : Int), n.natAbs ≤ 2 ^ 53 →
        v.literalAt? place = some (.number (integerNumeral n)) →
          ∃ x y, d.literalAt? place = some (.number x) ∧ x.isFinite = true ∧ (parts x).value = n ∧
            again.literalAt? place = some (.number y) ∧ (y = x ↔ ¬ LosesLastPlace n.natAbs) := by
  obtain ⟨v, document, made⟩ := (decodeText_eq_ok intact_design).mp decoded
  refine ⟨v, d.reread, document, parse_toJson_of_parse decoded, fun place n bounded spelled => ?_⟩
  obtain ⟨limit, literal, found, read⟩ := literalAt_of_decoded made spelled
  rw [decodeLiteral_integer bounded limit] at read
  obtain rfl := Except.ok.inj read
  refine ⟨integerFloat n, rereadNumber (integerFloat n), found, isFinite_integerFloat bounded,
    value_integerFloat bounded, ?_, reread_iff bounded _⟩
  rw [Design.literalAt?_reread, found]
  rfl

/-- A document whose only node has a whole number for its width, as a value. -/
def widthValue (n : Int) : Value :=
  .object [(lexemeOf "root", .object [(lexemeOf "node", .object [(lexemeOf "type", .string (lexemeOf "FRAME")),
    (lexemeOf "name", .string (lexemeOf "Card")),
    (lexemeOf "styles", .object [(lexemeOf "width", .number (integerNumeral n))] .closed)] .closed)] .closed)]
    .closed

def widthText (n : Int) : String :=
  String.ofList (objectText [("root", objectText [("node", objectText [("type", quoted "FRAME"),
    ("name", quoted "Card"),
    ("styles", objectText [("width", signed (decide (n < 0)) (Nat.toDigits 10 n.natAbs))])])])])

def widthDesign (n : Int) : Design :=
  .new ((Node.new .frame "Card").withStyle "width" (.number (integerFloat n)))

theorem isDocument_widthText (n : Int) : IsDocument (widthValue n) (widthText n).toList := by
  refine isDocument_ofList (writes_objectText (.cons ⟨rfl, writes_objectText (.cons ⟨rfl, writes_objectText
    (.cons ⟨rfl, .string (writesString_quoted _)⟩ (.cons ⟨rfl, .string (writesString_quoted _)⟩
      (.cons ⟨rfl, writes_objectText (.cons ⟨rfl, ?_⟩ .nil)⟩ .nil)))⟩ .nil)⟩ .nil))
  exact .number (writes_integerNumeral n)

/-- The largest number of the range is read back, with its sign. -/
theorem wholeNumbers_of_width :
    Design.parse (widthText (-2 ^ 53)) = .ok (widthDesign (-2 ^ 53)) ∧
      ∃ again x, Design.parse (widthDesign (-2 ^ 53)).toJson = .ok again ∧ (parts x).value = (-2 ^ 53 : Int) ∧
        (widthDesign (-2 ^ 53)).literalAt? (.style [] "width") = some (.number x) ∧
        again.literalAt? (.style [] "width") = some (.number x) := by
  have decoded : Design.parse (widthText (-2 ^ 53)) = .ok (widthDesign (-2 ^ 53)) := by
    rw [Design.parse, decodeText_of_isDocument (isDocument_widthText _)]
    rfl
  obtain ⟨v, again, document, reread, numbers⟩ := wholeNumbers_of_parse decoded
  obtain rfl := document.unique (isDocument_widthText _)
  obtain ⟨x, y, found, -, value, later, kept⟩ := numbers (.style [] "width") (-2 ^ 53) (by decide) rfl
  obtain rfl := kept.mpr (by decide)
  exact ⟨decoded, again, y, reread, value, found, later⟩

/-- A number of 51 bits is read back as another one. -/
theorem width_read_as_neighbour :
    (1801439850948199 : Int).natAbs ≤ 2 ^ 53 ∧
      IsDocument (widthValue 1801439850948199) (widthText 1801439850948199).toList ∧
      Design.parse (widthText 1801439850948199) = .ok (widthDesign 1801439850948199) ∧
      (widthValue 1801439850948199).literalAt? (.style [] "width")
        = some (.number (integerNumeral 1801439850948199)) ∧
      Design.parse (widthDesign 1801439850948199).toJson = .ok (widthDesign 1801439850948199).reread ∧
      ∃ x y, (widthDesign 1801439850948199).literalAt? (.style [] "width") = some (.number x) ∧
        (widthDesign 1801439850948199).reread.literalAt? (.style [] "width") = some (.number y) ∧
        documentText x = "1801439850948199.0" ∧ documentText y = "1801439850948199.2" ∧ y ≠ x := by
  have decoded : Design.parse (widthText 1801439850948199) = .ok (widthDesign 1801439850948199) := by
    rw [Design.parse, decodeText_of_isDocument (isDocument_widthText _)]
    rfl
  refine ⟨by decide, isDocument_widthText _, decoded, rfl, parse_toJson_of_parse decoded,
    integerFloat 1801439850948199, rereadNumber (integerFloat 1801439850948199), rfl, rfl, ?_, ?_, ?_⟩
  all_goals decide +kernel

end Viewsmith
