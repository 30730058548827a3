import Viewsmith.Proofs.Design.Rearranged
import Viewsmith.Proofs.Json.Slips

/-!
# Slips in documents

A single slip in a document that is read otherwise is reported as what it is, wherever in the document it
was made (`parse_of_slip`). A kind whose complaint ends like a position is reported without that ending
(`complaint_cut_short`).
-/

namespace Viewsmith

open Json

/-! ## Slips -/

inductive Slip : Type where
  | leftOut (name : String)
  | repeated (name : String)
  | unknownKind (tag : String)

def requiredFields : RecordName → List String
  | .design => ["root"]
  | .root => ["node"]
  | .page => ["name"]
  | .node => ["type", "name"]
  | .settings | .writer | .component => []

def Slip.complaint : Slip → String
  | leftOut name => "missing field `" ++ name ++ "`"
  | repeated name => "duplicate field `" ++ name ++ "`"
  | unknownKind tag => "Unknown node type: " ++ tag

/-- Whether nothing in the complaint can be taken for a position. -/
def Slip.IsPlain : Slip → Prop
  | unknownKind tag => ¬ EndsInPosition (unknownKind tag).complaint.toList
  | _ => True

/-- How a slip changes a record: a required member is left out, a known member is repeated with any value,
or the kind of a node becomes a text that names none, in a node that is an object or an array. -/
inductive Slip.Spoils : Slip → RecordName → Value → Value → Prop where
  | leftOut {r : RecordName} {before after : List (Lexeme × Value)} {key : Lexeme} {name : String}
      {v : Value} (spelled : key.text = .ok name) (required : name ∈ requiredFields r) :
      Slip.Spoils (.leftOut name) r (.object (before ++ (key, v) :: after) .closed)
        (.object (before ++ after) .closed)
  | repeated {r : RecordName} {before between after : List (Lexeme × Value)} {key key' : Lexeme}
      {name : String} {v w : Value} {text : List Char} (spelled : key.text = .ok name)
      (known : name ∈ (recordFields r).map Prod.fst) (spelled' : key'.text = .ok name)
      (written : WritesMember Writes (key', w) text) :
      Slip.Spoils (.repeated name) r (.object (before ++ (key, v) :: (between ++ after)) .closed)
        (.object (before ++ (key, v) :: (between ++ (key', w) :: after)) .closed)
  | unknownKind {before after : List (Lexeme × Value)} {key kind : Lexeme} {v : Value} {tag : String}
      {text : List Char} (spelled : key.text = .ok "type") (tagged : kind.text = .ok tag)
      (unknown : ∀ kind : NodeKind, kind.tag ≠ tag) (written : WritesString kind text) :
      Slip.Spoils (.unknownKind tag) .node (.object (before ++ (key, v) :: after) .closed)
        (.object (before ++ (key, .string kind) :: after) .closed)
  | unknownKindItem {items : List Value} {kind : Lexeme} {v : Value} {tag : String} {text : List Char}
      (tagged : kind.text = .ok tag) (unknown : ∀ kind : NodeKind, kind.tag ≠ tag)
      (written : WritesString kind text) :
      Slip.Spoils (.unknownKind tag) .node (.array (v :: items) .closed)
        (.array (.string kind :: items) .closed)

/-! ## Reports -/

def Slip.mismatch : Slip → Mismatch
  | leftOut name => .missingField name
  | repeated name => .duplicateField name
  | unknownKind tag => .refused (UnknownNodeKind.mk tag).message

theorem Slip.documentMessage {slip : Slip} (plain : slip.IsPlain) :
    slip.mismatch.documentMessage = "Invalid parse data: " ++ slip.complaint := by
  cases slip with
  | leftOut name | repeated name => rfl
  | unknownKind tag => exact congrArg _ (withoutPosition_of_not_endsInPosition plain)

section Slips

variable {slip : Slip} {r : RecordName} {v w : Value}

theorem Slip.Spoils.ne_null (h : slip.Spoils r v w) : v ≠ .null ∧ w ≠ .null := by
  cases h <;> simp

theorem Slip.Spoils.exists_writes (h : slip.Spoils r v w) :
    (∃ text, Writes v text) → ∃ text, Writes w text := by
  cases h with
  | leftOut spelled required =>
      simp only [exists_writes_object, List.forall_mem_append, List.forall_mem_cons]
      exact fun ⟨before, _, after⟩ => ⟨before, after⟩
  | repeated spelled known spelled' written =>
      simp only [exists_writes_object, List.forall_mem_append, List.forall_mem_cons]
      exact fun ⟨before, first, between, after⟩ => ⟨before, first, between, ⟨_, written⟩, after⟩
  | unknownKind spelled tagged unknown literal =>
      simp only [exists_writes_object, List.forall_mem_append, List.forall_mem_cons]
      rintro ⟨before, ⟨_, written⟩, after⟩
      cases written with
      | mk name front back _ => exact ⟨before, ⟨_, .mk name front back (.string literal)⟩, after⟩
  | unknownKindItem tagged unknown literal =>
      simp only [exists_writes_array, List.forall_mem_cons]
      exact fun ⟨_, others⟩ => ⟨⟨_, .string literal⟩, others⟩

/-- Required fields have no default. -/
theorem IsRecord.required {what : String} {fs : List Field} (h : IsRecord r what fs) {name : String}
    (required : name ∈ requiredFields r) :
    name ∈ fs.map Field.name ∧ ∀ f ∈ fs, f.name = name → f.default? = none := by
  have known : ∀ r, ∀ name ∈ requiredFields r, name ∈ (recordFields r).map Prod.fst := by
    intro r
    cases r <;> decide
  refine ⟨h.map_name ▸ known r name required, ?_⟩
  cases h with
  | design | root | page =>
      obtain rfl := List.mem_singleton.mp required
      simp [designFields, rootFields, pageFields]
  | node child =>
      rcases List.mem_pair.mp required with rfl | rfl
      · simp [nodeFields]
      · simp [nodeFields]
  | settings | writer | component => cases required

/-- An unknown kind is refused. -/
theorem settles_kind {kind : Lexeme} {tag : String} (tagged : kind.text = .ok tag)
    (unknown : ∀ kind : NodeKind, kind.tag ≠ tag) (limit : Nat) (v : Value) :
    Settles (some (.mismatch (Slip.unknownKind tag).mismatch)) decodeKind limit v (.string kind) := by
  intro x _
  have none : NodeKind.ofTag? tag = none :=
    List.find?_eq_none.mpr fun kind _ => by simp [unknown kind]
  simp only [decodeKind, string, tagged, liftFault, bind, Except.bind, none]
  rfl

theorem isSettled_spoils (slip : Slip) :
    IsSettled (fun _ => slip.Spoils) (some (.mismatch slip.mismatch)) where
  visible := Slip.Spoils.ne_null
  here := by
    intro r what fs known limit v w spoiled
    cases spoiled with
    | leftOut spelled required =>
        obtain ⟨field, required⟩ := known.required required
        exact settles_leaveOut spelled field required
    | repeated spelled field spelled' _ =>
        exact settles_repeated spelled (known.map_name ▸ field) spelled' _
    | unknownKind spelled tagged unknown _ =>
        cases known with
        | node child =>
            refine Settles.member spelled List.mem_cons_self fun f hf named => ?_
            rcases List.mem_cons.mp hf with rfl | later
            · exact settles_kind tagged unknown _ _
            · revert f
              simp [nodeFields]
    | unknownKindItem tagged unknown _ =>
        cases known with
        | node child =>
            refine @Settles.entry _ _ _ _ _ _ [] _ (Nat.succ_pos _) fun f at_f => ?_
            cases at_f
            exact settles_kind tagged unknown _ _

end Slips

/-- A document in which a slip was made is refused with a report of the slip. -/
theorem parse_of_spoils {slip : Slip} {v w : Value} {d : Design}
    (changed : Changes recordFields (fun _ => slip.Spoils) nestingLimit (.record .design) v w)
    (decoded : decodeDesign nestingLimit v = .ok d) {spoiled : String}
    (document : IsDocument w spoiled.toList) :
    Design.parse spoiled = .error (.mismatch slip.mismatch) := by
  rw [Design.parse, decodeText_of_isDocument document]
  exact respects_design (isSettled_spoils slip) nestingLimit changed decoded

/-- A slip is reported as what it is. A text that is read as a design is a document of some value; make a
slip in any record of that value, at any depth: leave out the member of a required field, repeat a
member with any value somewhere after it, or make the kind of a node a text that names none. Then the
value has a text, and no text of it is read as a design: there is a mismatch, and its message is the
complaint of the slip, unless that one ends like a position. -/
theorem parse_of_slip (text : String) (d : Design) (parsed : Design.parse text = .ok d) :
    ∃ v, IsDocument v text.toList ∧ ∀ (slip : Slip) (w : Value),
      Changes recordFields (fun _ => slip.Spoils) nestingLimit (.record .design) v w →
        (∃ spoiled : String, IsDocument w spoiled.toList) ∧
          ∀ spoiled : String, IsDocument w spoiled.toList →
            ∃ m : Mismatch, Design.parse spoiled = .error (.mismatch m) ∧
              (slip.IsPlain → m.documentMessage = "Invalid parse data: " ++ slip.complaint) := by
  obtain ⟨v, document, decoded⟩ := (decodeText_eq_ok intact_design).mp parsed
  refine ⟨v, document, fun slip w changed => ?_⟩
  have writable := changed.exists_writes Slip.Spoils.exists_writes document.exists_writes
  exact ⟨exists_isDocument writable, fun spoiled document' =>
    ⟨slip.mismatch, parse_of_spoils changed decoded document', Slip.documentMessage⟩⟩

/-- A name that is left out, a name that is repeated and an unknown kind are reported. -/
theorem parse_spoiledLabel :
    Design.parse Design.label.toJson = .ok Design.label ∧
      (∃ m, Design.parse (String.ofList (labelText [] [("type", "TEXT"), ("layout", "NONE")]))
          = .error (.mismatch m) ∧ m.documentMessage = "Invalid parse data: missing field `name`") ∧
      (∃ m, Design.parse (String.ofList (labelText []
            [("type", "TEXT"), ("name", "Card"), ("layout", "NONE"), ("name", "Tile")]))
          = .error (.mismatch m) ∧ m.documentMessage = "Invalid parse data: duplicate field `name`") ∧
      ∃ m, Design.parse (String.ofList (labelText []
            [("type", "BUTTON"), ("name", "Card"), ("layout", "NONE")]))
          = .error (.mismatch m) ∧ m.documentMessage = "Invalid parse data: Unknown node type: BUTTON" := by
  obtain ⟨v, document, spoiled⟩ := parse_of_slip _ _ parse_label
  obtain rfl := document.unique isDocument_label
  have reported (slip : Slip) (plain : slip.IsPlain) (members : List (String × String))
      (h : slip.Spoils .node (.object (textMembers labelMembers) .closed)
        (.object (textMembers members) .closed)) :
      ∃ m, Design.parse (String.ofList (labelText [] members)) = .error (.mismatch m) ∧
        m.documentMessage = "Invalid parse data: " ++ slip.complaint := by
    obtain ⟨m, refused, message⟩ :=
      (spoiled slip _ (changes_rootedValue (.here h))).2 _ (isDocument_labelText [] members)
    exact ⟨m, refused, message plain⟩
  refine ⟨parse_label, reported (.leftOut "name") trivial _ ?_,
    reported (.repeated "name") trivial _ ?_, reported (.unknownKind "BUTTON") ?_ _ ?_⟩
  · exact @Slip.Spoils.leftOut .node [_] [_] _ _ _ (text_lexemeOf "name") (by decide)
  · exact @Slip.Spoils.repeated .node [_] [_] [] _ _ _ _ _ _ (text_lexemeOf "name") (by decide)
      (text_lexemeOf "name") (.mk (writesString_quoted "name") blanks_nil blanks_nil
        (.string (writesString_quoted "Tile")))
  · exact fun position => absurd position.isInfix (by decide +kernel)
  · exact @Slip.Spoils.unknownKind [] [_, _] _ _ _ _ _ (text_lexemeOf "type") (text_lexemeOf "BUTTON")
      (fun kind => by cases kind <;> decide) (writesString_quoted "BUTTON")

/-- A kind that reads like a position once it stands after a blank is cut off from its complaint. -/
theorem complaint_cut_short :
    Design.parse Design.label.toJson = .ok Design.label ∧
      IsDocument (labelValue [] (textMembers labelMembers)) Design.label.toJson.toList ∧
      (Slip.unknownKind "at line 3 column 4").Spoils .node
        (.object (textMembers labelMembers) .closed)
        (.object (textMembers [("type", "at line 3 column 4"), ("name", "Card"), ("layout", "NONE")])
          .closed) ∧
      ¬ lineMarker <:+: "at line 3 column 4".toList ∧
      Design.parse (String.ofList (labelText []
          [("type", "at line 3 column 4"), ("name", "Card"), ("layout", "NONE")]))
        = .error (.mismatch (.refused "Unknown node type: at line 3 column 4")) ∧
      (Mismatch.refused "Unknown node type: at line 3 column 4").documentMessage
        = "Invalid parse data: Unknown node type:" := by
  have spoils : (Slip.unknownKind "at line 3 column 4").Spoils .node
      (.object (textMembers labelMembers) .closed)
      (.object (textMembers [("type", "at line 3 column 4"), ("name", "Card"), ("layout", "NONE")])
        .closed) :=
    @Slip.Spoils.unknownKind [] [_, _] _ _ _ _ _ (text_lexemeOf "type")
      (text_lexemeOf "at line 3 column 4") (fun kind => by cases kind <;> decide)
      (writesString_quoted "at line 3 column 4")
  have decoded : decodeDesign nestingLimit (labelValue [] (textMembers labelMembers))
      = .ok Design.label := (decodeText_of_isDocument isDocument_label).symm.trans parse_label
  exact ⟨parse_label, isDocument_label, spoils, by decide +kernel,
    parse_of_spoils (changes_rootedValue (.here spoils)) decoded (isDocument_labelText [] _),
    by decide +kernel⟩

end Viewsmith
