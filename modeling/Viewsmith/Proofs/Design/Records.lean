import Viewsmith.Proofs.Design.RoundTrip
import Viewsmith.Proofs.Json.Changes
import Viewsmith.Settings.Codec

/-!
# Records of documents and of settings

The records that documents and settings are made of, with their fields. What is decoded can be passed
over, and a change of one record matters to the whole as it does to the decoder of that record
(`respects_design`, `respects_settings`). A node is read by a reader for its children, so what holds of a
reader that refuses everything, and passes from a reader of children to the reader of nodes, holds of the
reader of nodes (`decodeNode_induction`).
-/

namespace Viewsmith

open Json

/-! ## Records -/

inductive RecordName : Type where
  | design
  | root
  | page
  | node
  | settings
  | writer
  | component
deriving DecidableEq

/-- The fields of the records, and which of them hold records. -/
def recordFields : Schema RecordName
  | .design => [("root", some (.record .root)), ("localState", none)]
  | .root => [("node", some (.record .node))]
  | .page => [("name", none)]
  | .node =>
      [("type", none), ("name", none), ("page", some (.record .page)), ("layout", none),
        ("children", some (.list .node)), ("styles", none), ("characters", none)]
  | .settings => [("writer", some (.record .writer)), ("component", some (.record .component))]
  | .writer =>
      [("indentNumberOfSpaces", none), ("useTabs", none), ("quoteStyle", none), ("newLine", none)]
  | .component => [("exportStyle", none), ("stylePrefix", none), ("rowFromLayout", none)]

/-- What holds of the decoder that refuses every child, and of a decoder of nodes if it holds of the
decoder of their children, holds of the decoder of nodes under every limit. -/
theorem decodeNode_induction {holds : Decoder Node → Prop}
    (refused : holds fun _ _ => .error (.fault .malformed))
    (deeper : ∀ child, holds child → ∀ limit, holds fun _ => decodeNodeWith child limit) :
    ∀ limit, holds fun _ => decodeNode limit
  | 0 => deeper _ refused 0
  | 1 => deeper _ refused 1
  | limit + 2 => deeper _ (decodeNode_induction refused deeper limit) (limit + 2)

/-! ## What is decoded is intact -/

theorem intact_literal : Intact decodeLiteral := by
  intro limit v x decoded
  unfold decodeLiteral at decoded
  cases read : v.data limit with
  | error f =>
      rw [read] at decoded
      cases decoded
  | ok data => exact skip_of_data read

theorem intact_kind : Intact decodeKind := intact_string.bind _

theorem intact_layout : Intact decodeLayout := intact_oneOf _ _

theorem intact_page : Intact decodePage :=
  (intact_record _ (List.forall_mem_singleton.mpr intact_string)).bind _

theorem intact_nodeWith {child : Decoder Node} (h : Intact child) : Intact (decodeNodeWith child) := by
  refine (intact_record _ ?_).bind _
  simp only [nodeFields, List.forall_mem_cons]
  exact ⟨intact_kind, intact_string, intact_page.optional, intact_layout, h.sequence,
    intact_literal.orderedMap, intact_string.optional, List.forall_mem_nil _⟩

theorem intact_node : Intact decodeNode := by
  have under : ∀ limit, Intact fun _ => decodeNode limit := by
    refine decodeNode_induction ?_ ?_
    · intro limit v n decoded
      cases decoded
    · intro child h limit _ v n decoded
      exact intact_nodeWith h decoded
  intro limit v n decoded
  exact @under limit limit v n decoded

theorem intact_stateEntry : Intact decodeStateEntry := by
  refine (intact_tuple _ ?_).bind _
  simp only [stateEntryFields, List.forall_mem_cons]
  exact ⟨intact_string, intact_literal, List.forall_mem_nil _⟩

theorem intact_localState : Intact decodeLocalState :=
  intact_stateEntry.sequence.orderedMap.orderedMap

theorem intact_root : Intact decodeRoot :=
  (intact_record _ (List.forall_mem_singleton.mpr intact_node)).bind _

theorem intact_design : Intact decodeDesign := by
  refine (intact_record _ ?_).bind _
  simp only [designFields, List.forall_mem_cons]
  exact ⟨intact_root, intact_localState.optional, List.forall_mem_nil _⟩

theorem intact_writerOptions : Intact decodeWriterOptions := by
  refine (intact_record _ ?_).bind _
  simp only [writerFields, List.forall_mem_cons]
  exact ⟨intact_size, intact_boolean, intact_oneOf _ _, intact_oneOf _ _, List.forall_mem_nil _⟩

theorem intact_componentOptions : Intact decodeComponentOptions := by
  refine (intact_record _ ?_).bind _
  simp only [componentFields, List.forall_mem_cons]
  exact ⟨intact_oneOf _ _, intact_string, intact_boolean, List.forall_mem_nil _⟩

theorem intact_settings : Intact decodeSettings := by
  refine (intact_record _ ?_).bind _
  simp only [settingsFields, List.forall_mem_cons]
  exact ⟨intact_writerOptions, intact_componentOptions, List.forall_mem_nil _⟩

/-! ## Changes of records -/

/-- The decoders of the records: what a message calls the record, and its fields. Those of a node depend
on the decoder of its children. -/
inductive IsRecord : RecordName → String → List Field → Prop where
  | design : IsRecord .design "struct ParseData" designFields
  | root : IsRecord .root "struct ParseRoot" rootFields
  | page : IsRecord .page "struct PageRef" pageFields
  | node (child : Decoder Node) : IsRecord .node "struct Node" (nodeFields child)
  | settings : IsRecord .settings "struct Settings" settingsFields
  | writer : IsRecord .writer "struct WriterOptions" writerFields
  | component : IsRecord .component "struct ComponentOptions" componentFields

theorem IsRecord.map_name {r : RecordName} {what : String} {fs : List Field}
    (h : IsRecord r what fs) : fs.map Field.name = (recordFields r).map Prod.fst := by
  cases h <;> rfl

theorem IsRecord.nodup {r : RecordName} {what : String} {fs : List Field} (h : IsRecord r what fs) :
    (fs.map Field.name).Nodup := by
  rw [h.map_name]
  cases r <;> decide

/-- What a change of any record does is known from the record alone: its own decoder makes the same of
it, or fails with the error. -/
structure IsSettled (change : Nat → RecordName → Value → Value → Prop) (error? : Option DecodeError) :
    Prop where
  visible : ∀ {limit r v w}, change limit r v w → v ≠ .null ∧ w ≠ .null
  here : ∀ {r what fs}, IsRecord r what fs → ∀ {limit v w}, change limit r v w →
    Settles error? (record what fs) limit v w

section Changes

variable {change : Nat → RecordName → Value → Value → Prop} {error? : Option DecodeError}

/-- The decoder of a record respects the changes of it if those of its fields do. -/
theorem IsSettled.record (h : IsSettled change error?) {r : RecordName} {what : String}
    {fs : List Field} (known : IsRecord r what fs) {limit : Nat}
    (fields : List.Forall₂ (FieldRespects recordFields change error? (limit - 1)) fs
      (recordFields r)) :
    Respects recordFields change error? limit (.record r) (Json.record what fs) :=
  respects_record what fields known.nodup (h.here known)

theorem respects_page (h : IsSettled change error?) (limit : Nat) :
    Respects recordFields change error? limit (.record .page) decodePage :=
  (h.record .page (.cons (.plain rfl) .nil)).bind _

theorem respects_nodeWith (h : IsSettled change error?) {child : Decoder Node} {limit : Nat}
    (children : Respects recordFields change error? (limit - 1 - 1) (.record .node) child) :
    Respects recordFields change error? limit (.record .node) (decodeNodeWith child) := by
  have page := (respects_page h (limit - 1)).optional h.visible
  refine (h.record (.node child) ?_).bind _
  exact .cons (.plain rfl) (.cons (.plain rfl) (.cons (.inside rfl page) (.cons (.plain rfl)
    (.cons (.inside rfl children.sequence) (.cons (.plain rfl) (.cons (.plain rfl) .nil))))))

theorem respects_refusal {limit : Nat} :
    Respects recordFields change error? limit (.record .node)
      fun _ _ => (.error (.fault .malformed) : Decoded Node) := by
  intro v w _ n decoded
  cases decoded

theorem respects_node (h : IsSettled change error?) :
    ∀ limit, Respects recordFields change error? limit (.record .node) decodeNode
  | 0 => respects_nodeWith h respects_refusal
  | 1 => respects_nodeWith h respects_refusal
  | limit + 2 => respects_nodeWith h (respects_node h limit)

theorem respects_root (h : IsSettled change error?) (limit : Nat) :
    Respects recordFields change error? limit (.record .root) decodeRoot :=
  (h.record .root (.cons (.inside rfl (respects_node h _)) .nil)).bind _

theorem respects_design (h : IsSettled change error?) (limit : Nat) :
    Respects recordFields change error? limit (.record .design) decodeDesign :=
  (h.record .design (.cons (.inside rfl (respects_root h _)) (.cons (.plain rfl) .nil))).bind _

theorem respects_writerOptions (h : IsSettled change error?) (limit : Nat) :
    Respects recordFields change error? limit (.record .writer) decodeWriterOptions :=
  (h.record .writer (.cons (.plain rfl) (.cons (.plain rfl) (.cons (.plain rfl)
    (.cons (.plain rfl) .nil))))).bind _

theorem respects_componentOptions (h : IsSettled change error?) (limit : Nat) :
    Respects recordFields change error? limit (.record .component) decodeComponentOptions :=
  (h.record .component (.cons (.plain rfl) (.cons (.plain rfl) (.cons (.plain rfl) .nil)))).bind _

theorem respects_settings (h : IsSettled change error?) (limit : Nat) :
    Respects recordFields change error? limit (.record .settings) decodeSettings :=
  (h.record .settings (.cons (.inside rfl (respects_writerOptions h _))
    (.cons (.inside rfl (respects_componentOptions h _)) .nil))).bind _

end Changes

/-! ## Documents that are only a node -/

/-- The value of a document that has a root node and nothing else. -/
def rootedValue (node : Value) : Value :=
  .object [(lexemeOf "root", .object [(lexemeOf "node", node)] .closed)] .closed

theorem changes_rootedValue {change : Nat → RecordName → Value → Value → Prop} {limit : Nat}
    {v w : Value} (h : Changes recordFields change (limit - 2) (.record .node) v w) :
    Changes recordFields change limit (.record .design) (rootedValue v) (rootedValue w) := by
  have root : Changes recordFields change (limit - 1) (.record .root) _ _ :=
    .only List.mem_cons_self h
  exact .only List.mem_cons_self root

end Viewsmith
