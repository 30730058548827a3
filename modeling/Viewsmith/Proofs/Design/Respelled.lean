import Mathlib.Logic.Function.Iterate
import Viewsmith.Proofs.Design.Rearranged
import Viewsmith.Proofs.Json.Respelling

/-!
# Records of documents and settings as arrays

A record of a document or of settings that is written as an object may be written as an array instead
(`parse_of_respelled`). The defaults that such an array spells out have to keep the nesting limit: two of
them, for the children and the styles of a node, are lists themselves, so the innermost node that a
document can hold has no room for them (`respelled_too_deep`).
-/

namespace Viewsmith

open Json

/-! ## Defaults -/

def writerDefaults : List (String × Data) :=
  [("indentNumberOfSpaces", .number (.natural 2)), ("useTabs", .bool false),
    ("quoteStyle", .string "single"), ("newLine", .string "\n")]

def componentDefaults : List (String × Data) :=
  [("exportStyle", .string "named"), ("stylePrefix", .string "style"), ("rowFromLayout", .bool true)]

/-- The fields of records in their order, and what their defaults mean. -/
def recordDefaults : RecordName → List (String × Option Data)
  | .design => [("root", none), ("localState", some .null)]
  | .root => [("node", none)]
  | .page => [("name", none)]
  | .node =>
      [("type", none), ("name", none), ("page", some .null), ("layout", some (.string "NONE")),
        ("children", some (.array [])), ("styles", some (.object [])), ("characters", some .null)]
  | .settings => [("writer", some (.object writerDefaults)), ("component", some (.object componentDefaults))]
  | .writer => writerDefaults.map fun d => (d.1, some d.2)
  | .component => componentDefaults.map fun d => (d.1, some d.2)

theorem filled_writerFields :
    List.Forall₂ (fun f d => FieldFilled f (d.1, some d.2)) writerFields writerDefaults :=
  .cons (filled_size 2) (.cons (filled_boolean false)
    (.cons (filled_oneOf QuoteStyle.name QuoteStyle.all .single (by decide))
      (.cons (filled_oneOf LineEnd.text LineEnd.all .lf (by decide)) .nil)))

theorem filled_componentFields :
    List.Forall₂ (fun f d => FieldFilled f (d.1, some d.2)) componentFields componentDefaults :=
  .cons (filled_oneOf ExportStyle.name ExportStyle.all .named (by decide))
    (.cons (filled_string "style") (.cons (filled_boolean true) .nil))

theorem filled_writer :
    FieldFilled ⟨"writer", WriterOptions, decodeWriterOptions, some {}⟩
      ("writer", some (.object writerDefaults)) :=
  filled_record (fun _ _ => rfl) filled_writerFields IsRecord.writer.nodup rfl rfl

theorem filled_component :
    FieldFilled ⟨"component", ComponentOptions, decodeComponentOptions, some {}⟩
      ("component", some (.object componentDefaults)) :=
  filled_record (fun _ _ => rfl) filled_componentFields IsRecord.component.nodup rfl rfl

/-- The defaults that arrays spell out are those of the records. -/
theorem IsRecord.filled {r : RecordName} {what : String} {fs : List Field} (h : IsRecord r what fs) :
    List.Forall₂ FieldFilled fs (recordDefaults r) := by
  cases h with
  | design => exact .cons (.required rfl) (.cons (filled_optional _) .nil)
  | root => exact .cons (.required rfl) .nil
  | page => exact .cons (.required rfl) .nil
  | node child =>
      exact .cons (.required rfl) (.cons (.required rfl) (.cons (filled_optional _)
        (.cons (filled_oneOf LayoutMode.name LayoutMode.all .none (by decide))
          (.cons (filled_sequence _) (.cons (filled_orderedMap _) (.cons (filled_optional _) .nil))))))
  | settings => exact .cons filled_writer (.cons filled_component .nil)
  | writer => exact List.forall₂_map_right_iff.mpr filled_writerFields
  | component => exact List.forall₂_map_right_iff.mpr filled_componentFields

/-! ## Texts -/

/-- Whether a value becomes another one when some of the objects that stand for records in it are
written as arrays, where so many lists may be open at once. -/
def Respelled (limit : Nat) (r : RecordName) : Value → Value → Prop :=
  Relation.ReflTransGen (Changes recordFields (Respells recordDefaults) limit (.record r))

theorem isSettled_respells : IsSettled (Respells recordDefaults) none where
  visible := Respells.ne_null
  here := fun known _ _ _ respelled => settles_respells known.filled known.nodup respelled

/-- A record written as an array is the record written as an object. A text that is read as a design is
a document of some value; write any of the objects that stand for records in that value as the arrays of
what their fields hold, in the order of the fields. A field that is absent is spelled as its default, or
is left out where no later field is present, and what is spelled out keeps the nesting limit. Then the
value has a text, and every text of it is read as the same design. So it is with settings. -/
theorem parse_of_respelled :
    (∀ (text : String) (d : Design), Design.parse text = .ok d →
      ∃ v, IsDocument v text.toList ∧ ∀ w, Respelled nestingLimit .design v w →
        (∃ moved : String, IsDocument w moved.toList) ∧
          ∀ moved : String, IsDocument w moved.toList → Design.parse moved = .ok d) ∧
      ∀ (text : String) (s : Settings), Settings.parse text = .ok s →
        ∃ v, IsDocument v text.toList ∧ ∀ w, Respelled nestingLimit .settings v w →
          (∃ moved : String, IsDocument w moved.toList) ∧
            ∀ moved : String, IsDocument w moved.toList → Settings.parse moved = .ok s := by
  have writable {r : RecordName} {v w : Value}
      (step : Changes recordFields (Respells recordDefaults) nestingLimit (.record r) v w) :
      (∃ text, Writes v text) → ∃ text, Writes w text := step.exists_writes Respells.exists_writes
  constructor
  · intro text d parsed
    exact decodeText_of_steps intact_design writable
      (fun step => @respects_design _ _ isSettled_respells nestingLimit _ _ step _) parsed
  · intro text s parsed
    exact decodeText_of_steps intact_settings writable
      (fun step => @respects_settings _ _ isSettled_respells nestingLimit _ _ step _) parsed

/-- The label with its root and its node as arrays. -/
def labelRows : Value :=
  .array [.object [(lexemeOf "node", .array [.string (lexemeOf "TEXT"), .string (lexemeOf "Card"), .null,
    .string (lexemeOf "NONE"), .array [] .closed] .closed)] .closed] .closed

def labelRowsText : String :=
  String.ofList (arrayText [objectText [("node", arrayText
    [quoted "TEXT", quoted "Card", "null".toList, quoted "NONE", arrayText []])]])

theorem isDocument_labelRowsText : IsDocument labelRows labelRowsText.toList := by
  have node := writes_arrayText (.cons (.string (writesString_quoted "TEXT"))
    (.cons (.string (writesString_quoted "Card")) (.cons .null
      (.cons (.string (writesString_quoted "NONE")) (.cons (writes_arrayText .nil) .nil)))))
  have root : Writes (.object [(lexemeOf "node", _)] .closed) (objectText [("node", _)]) :=
    writes_objectText (.cons ⟨rfl, node⟩ .nil)
  exact isDocument_ofList (writes_arrayText (.cons root .nil))

theorem respelled_labelRows :
    Respelled nestingLimit .design
      (labelValue [] (textMembers labelMembers)) labelRows := by
  have node : ListsFields (nestingLimit - 3) (textMembers labelMembers) (recordDefaults .node)
      [.string (lexemeOf "TEXT"), .string (lexemeOf "Card"), .null, .string (lexemeOf "NONE"),
        .array [] .closed] := by
    refine .present (text_lexemeOf "type") (by simp [textMembers, labelMembers])
      (.present (text_lexemeOf "name") (by simp [textMembers, labelMembers]) (.filled ?_ .null rfl
        (.present (text_lexemeOf "layout") (by simp [textMembers, labelMembers])
          (.filled ?_ (writes_arrayText .nil) rfl (.leftOut ?_)))))
    all_goals simp [IsAbsent, textMembers, labelMembers, text_lexemeOf]
  have inside := @changes_rootedValue (Respells recordDefaults) nestingLimit _ _ (.here (.array node))
  refine .tail (.single inside) (.here (.array (.present (text_lexemeOf "root") List.mem_cons_self
    (.leftOut ?_))))
  simp [IsAbsent, text_lexemeOf]

def Settings.tabs : Settings := { writer := { useTabs := true } }

def tabsValue : Value :=
  .object [(lexemeOf "writer", .object [(lexemeOf "useTabs", .bool true)] .closed)] .closed

def tabsText : String :=
  String.ofList (objectText [("writer", objectText [("useTabs", boolText true)])])

theorem isDocument_tabsText : IsDocument tabsValue tabsText.toList := by
  have writer : Writes (.object [(lexemeOf "useTabs", .bool true)] .closed)
      (objectText [("useTabs", boolText true)]) := writes_objectText (.cons ⟨rfl, .bool true⟩ .nil)
  refine isDocument_ofList (writes_objectText (.cons ⟨rfl, ?_⟩ .nil))
  exact writer

def numeralTwo : Numeral := ⟨false, ['2'], [], none⟩

theorem writes_numeralTwo : Writes (.number numeralTwo) ['2'] := by
  obtain ⟨text, shape, written⟩ :=
    writes_of_scanNumeral (show scanNumeral ['2'] = .read numeralTwo [] from rfl)
  rw [List.append_nil] at shape
  rw [shape]
  exact .number written

/-- The settings as arrays, with the default width of an indentation. -/
def tabsRows : Value := .array [.array [.number numeralTwo, .bool true] .closed] .closed

def tabsRowsText : String := String.ofList (arrayText [arrayText [['2'], boolText true]])

theorem isDocument_tabsRowsText : IsDocument tabsRows tabsRowsText.toList :=
  isDocument_ofList
    (writes_arrayText (.cons (writes_arrayText (.cons writes_numeralTwo (.cons (.bool true) .nil))) .nil))

theorem respelled_tabsRows : Respelled nestingLimit .settings tabsValue tabsRows := by
  have writer : ListsFields (nestingLimit - 2) [(lexemeOf "useTabs", .bool true)]
      (recordDefaults .writer) [.number numeralTwo, .bool true] := by
    refine .filled ?_ writes_numeralTwo rfl
      (.present (text_lexemeOf "useTabs") List.mem_cons_self (.leftOut ?_))
    · simp [IsAbsent, text_lexemeOf]
    · simp [IsAbsent, text_lexemeOf]
  have inside : Changes recordFields (Respells recordDefaults) nestingLimit (.record .settings) _ _ :=
    Changes.only List.mem_cons_self (.here (.array writer))
  refine .tail (.single inside) (.here (.array (.present (text_lexemeOf "writer") List.mem_cons_self
    (.leftOut ?_))))
  simp [IsAbsent, text_lexemeOf]

/-- A label and settings are read from arrays that spell some of their defaults. -/
theorem parse_labelRows :
    (Design.parse Design.label.toJson = .ok Design.label ∧
      Design.parse labelRowsText = .ok Design.label) ∧
      Settings.parse tabsText = .ok Settings.tabs ∧ Settings.parse tabsRowsText = .ok Settings.tabs := by
  have tabs : Settings.parse tabsText = .ok Settings.tabs := by
    rw [Settings.parse, decodeText_of_isDocument isDocument_tabsText]
    rfl
  obtain ⟨v, document, moved⟩ := parse_of_respelled.1 _ _ parse_label
  obtain rfl := document.unique isDocument_label
  obtain ⟨w, document', moved'⟩ := parse_of_respelled.2 _ _ tabs
  obtain rfl := document'.unique isDocument_tabsText
  exact ⟨⟨parse_label, (moved _ respelled_labelRows).2 _ isDocument_labelRowsText⟩, tabs,
    (moved' _ respelled_tabsRows).2 _ isDocument_tabsRowsText⟩

/-! ## The innermost node -/

def Node.framed (child : Node) : Node := (Node.new .frame "").withChild child

def frameValue (child : Value) : Value :=
  .array [.string (lexemeOf "FRAME"), .string (lexemeOf ""), .null, .string (lexemeOf "NONE"),
    .array [child] .closed] .closed

def frameText (child : List Char) : List Char :=
  arrayText [quoted "FRAME", quoted "", "null".toList, quoted "NONE", arrayText [child]]

/-- A document whose root is a node in so many frames, one in the other. -/
def framedValue (frames : Nat) (node : Value) : Value :=
  .array [.array [frameValue^[frames] node] .closed] .closed

def framedText (frames : Nat) (node : List Char) : String :=
  String.ofList (arrayText [arrayText [frameText^[frames] node]])

theorem writes_frameText {v : Value} {text : List Char} (h : Writes v text) :
    Writes (frameValue v) (frameText text) :=
  writes_arrayText (.cons (.string (writesString_quoted _)) (.cons (.string (writesString_quoted _))
    (.cons .null (.cons (.string (writesString_quoted _))
      (.cons (writes_arrayText (.cons h .nil)) .nil)))))

theorem isDocument_framedText (frames : Nat) {v : Value} {text : List Char} (h : Writes v text) :
    IsDocument (framedValue frames v) (framedText frames text).toList := by
  have node : Writes (frameValue^[frames] v) (frameText^[frames] text) := by
    induction frames with
    | zero => exact h
    | succ frames ih =>
        rw [Function.iterate_succ_apply', Function.iterate_succ_apply']
        exact writes_frameText ih
  exact isDocument_ofList (writes_arrayText (.cons (writes_arrayText (.cons node .nil)) .nil))

theorem changes_frameValue {change : Nat → RecordName → Value → Value → Prop} {limit : Nat}
    {v w : Value} (h : Changes recordFields change limit (.record .node) v w) :
    Changes recordFields change (limit + 2) (.record .node) (frameValue v) (frameValue w) :=
  @Changes.entry _ _ _ (limit + 2) _ _ [_, _, _, _] [] "children" _ _ rfl
    (@Changes.item _ _ _ (limit + 1) _ [] [] _ _ h)

/-- A node in frames is changed with two more lists for each frame around it. -/
theorem changes_framedValue {change : Nat → RecordName → Value → Value → Prop} {limit : Nat}
    {v w : Value} (h : Changes recordFields change limit (.record .node) v w) (frames : Nat) :
    Changes recordFields change (limit + 2 * frames + 2) (.record .design) (framedValue frames v)
      (framedValue frames w) := by
  have node : Changes recordFields change (limit + 2 * frames) (.record .node)
      (frameValue^[frames] v) (frameValue^[frames] w) := by
    induction frames with
    | zero => exact h
    | succ frames ih =>
        rw [Function.iterate_succ_apply', Function.iterate_succ_apply']
        exact changes_frameValue ih
  exact @Changes.entry _ _ _ (limit + 2 * frames + 2) _ _ [] [] "root" _ _ rfl
    (@Changes.entry _ _ _ (limit + 2 * frames + 1) _ _ [] [] "node" _ _ rfl node)

/-- A frame around one child is decoded with two more lists than the child. -/
theorem decodeNode_frameValue (limit : Nat) (v : Value) :
    decodeNode (limit + 3) (frameValue v) = (decodeNode (limit + 1) v).map Node.framed := by
  have kind : decodeKind (limit + 2) (.string (lexemeOf "FRAME")) = .ok .frame := by
    rw [decodeKind, string, text_lexemeOf]
    rfl
  have name : string (limit + 2) (.string (lexemeOf "")) = .ok "" := by
    rw [string, text_lexemeOf]
    rfl
  have layout : decodeLayout (limit + 2) (.string (lexemeOf "NONE")) = .ok .none := by
    simp only [decodeLayout, oneOf, text_lexemeOf]
    rfl
  have children : sequence (fun _ => decodeNode (limit + 1)) (limit + 2) (.array [v] .closed)
      = (decodeNode (limit + 1) v).map fun child => [child] := by
    show ([v].mapM (decodeNode (limit + 1)) >>= _) = _
    rw [List.mapM_cons]
    cases decodeNode (limit + 1) v <;> rfl
  show decodeNodeWith (fun _ => decodeNode (limit + 1)) (limit + 3) (frameValue v) = _
  rw [decodeNodeWith, frameValue, record_array (by omega), Nat.add_sub_assoc (by omega)]
  simp only [nodeFields, Fields.readItems, kind, name, layout, children]
  cases decodeNode (limit + 1) v <;> rfl

/-- A document of a node in frames is decoded with three more lists than the node, and two more for each
frame. -/
theorem decodeDesign_framedValue (limit frames : Nat) (v : Value) :
    decodeDesign (limit + 2 * frames + 3) (framedValue frames v)
      = (decodeNode (limit + 1) v).map fun n => { root := Node.framed^[frames] n, localState := none } := by
  have node : decodeNode (limit + 2 * frames + 1) (frameValue^[frames] v)
      = (decodeNode (limit + 1) v).map (Node.framed^[frames]) := by
    induction frames with
    | zero =>
        show decodeNode (limit + 1) v = _
        cases decodeNode (limit + 1) v <;> rfl
    | succ frames ih =>
        rw [Function.iterate_succ_apply']
        refine (decodeNode_frameValue (limit + 2 * frames) _).trans ?_
        rw [ih]
        cases decodeNode (limit + 1) v with
        | error e => rfl
        | ok n =>
          show Except.ok (Node.framed (Node.framed^[frames] n)) = _
          rw [← Function.iterate_succ_apply' Node.framed]
          rfl
  have root : decodeRoot (limit + 2 * frames + 2) (.array [frameValue^[frames] v] .closed)
      = (decodeNode (limit + 1) v).map (Node.framed^[frames]) := by
    rw [decodeRoot, record_array (by omega)]
    show (decodeNode (limit + 2 * frames + 1) _ >>= _) >>= _ = _
    rw [node]
    cases decodeNode (limit + 1) v <;> rfl
  rw [decodeDesign, framedValue, record_array (by omega)]
  show (decodeRoot (limit + 2 * frames + 2) _ >>= _) >>= _ = _
  rw [root]
  cases decodeNode (limit + 1) v <;> rfl

def bareNode : Value := .object (textMembers [("type", "TEXT"), ("name", "")]) .closed

def bareText : List Char := objectText [("type", quoted "TEXT"), ("name", quoted "")]

def fullNode : Value :=
  .array [.string (lexemeOf "TEXT"), .string (lexemeOf ""), .null, .string (lexemeOf "NONE"),
    .array [] .closed, .object [] .closed, .null] .closed

def fullText : List Char :=
  arrayText [quoted "TEXT", quoted "", "null".toList, quoted "NONE", arrayText [], objectText [],
    "null".toList]

theorem writes_bareText : Writes bareNode bareText :=
  writes_objectText (.cons ⟨rfl, .string (writesString_quoted _)⟩
    (.cons ⟨rfl, .string (writesString_quoted _)⟩ .nil))

theorem writes_fullText : Writes fullNode fullText :=
  writes_arrayText (.cons (.string (writesString_quoted _)) (.cons (.string (writesString_quoted _))
    (.cons .null (.cons (.string (writesString_quoted _)) (.cons (writes_arrayText .nil)
      (.cons (writes_objectText .nil) (.cons .null .nil)))))))

/-- The defaults of the text can be spelled where two more lists may be opened. -/
theorem respells_fullNode (limit : Nat) :
    Respells recordDefaults (limit + 3) .node bareNode fullNode := by
  refine .array (.present (text_lexemeOf "type") (by simp [textMembers]) (.present (text_lexemeOf "name")
    (by simp [textMembers]) (.filled ?_ .null rfl (.filled ?_ (.string (writesString_quoted "NONE")) ?_
      (.filled ?_ (writes_arrayText .nil) rfl (.filled ?_ (writes_objectText .nil) rfl
        (.filled ?_ .null rfl (.leftOut (List.forall_mem_nil _)))))))))
  case refine_3 =>
    rw [Value.data, text_lexemeOf]
    rfl
  all_goals simp [IsAbsent, textMembers, text_lexemeOf]

/-- The innermost node of a document has no room for its defaults. A text in 62 frames is decoded if it
is an object that leaves them out; if it is the array that spells them, the text of the document is
malformed, for its lists of children and of styles are the 128th to be open at once. -/
theorem respelled_too_deep :
    Respelled (nestingLimit + 1) .design (framedValue 62 bareNode) (framedValue 62 fullNode) ∧
      IsDocument (framedValue 62 bareNode) (framedText 62 bareText).toList ∧
      IsDocument (framedValue 62 fullNode) (framedText 62 fullText).toList ∧
      Design.parse (framedText 62 bareText)
        = .ok { root := Node.framed^[62] (Node.new .text ""), localState := none } ∧
      Design.parse (framedText 62 fullText) = .error (.fault .malformed) := by
  have bare := isDocument_framedText 62 writes_bareText
  have full := isDocument_framedText 62 writes_fullText
  refine ⟨.single (changes_framedValue (.here (respells_fullNode 0)) 62), bare, full, ?_, ?_⟩
  · have decoded : decodeNode 2 bareNode = .ok (Node.new .text "") := rfl
    rw [Design.parse, decodeText_of_isDocument bare]
    refine (decodeDesign_framedValue 1 62 bareNode).trans ?_
    rw [decoded]
    rfl
  · have refused : decodeNode 2 fullNode = .error (.fault .malformed) := rfl
    rw [Design.parse, decodeText_of_isDocument full]
    refine (decodeDesign_framedValue 1 62 fullNode).trans ?_
    rw [refused]
    rfl

end Viewsmith
