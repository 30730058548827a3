import Viewsmith.Proofs.Design.Records
import Viewsmith.Proofs.Json.Rearrangement

/-!
# Order of members in documents and settings

What a document or a text of settings holds does not depend on the order of the members of its records,
nor on members that no record knows (`parse_of_rearranged`).
-/

namespace Viewsmith

open Json

/-! ## What is decoded is kept -/

theorem isSettled_reorders : IsSettled (fun _ => Reorders recordFields) none where
  visible := Reorders.ne_null
  here := fun known _ _ _ reordered => settles_reorders known.map_name reordered

theorem keeps_design : Keeps recordFields (.record .design) decodeDesign :=
  keeps_of_respects (respects_design isSettled_reorders)

theorem keeps_settings : Keeps recordFields (.record .settings) decodeSettings :=
  keeps_of_respects (respects_settings isSettled_reorders)

/-! ## Texts -/

/-- The order of the members of a record and members that are none of its fields do not matter. A text
that is read as a design is a document of some value; change the objects that stand for records in that
value in any number of steps, at any depth, each of which permutes the members of one object or inserts
into one object an unknown member: then the value has a text, and every text of it is read as the same
design. So it is with settings. -/
theorem parse_of_rearranged :
    (∀ (text : String) (d : Design), Design.parse text = .ok d →
      ∃ v, IsDocument v text.toList ∧ ∀ w, Rearranged recordFields .design v w →
        (∃ moved : String, IsDocument w moved.toList) ∧
          ∀ moved : String, IsDocument w moved.toList → Design.parse moved = .ok d) ∧
      ∀ (text : String) (s : Settings), Settings.parse text = .ok s →
        ∃ v, IsDocument v text.toList ∧ ∀ w, Rearranged recordFields .settings v w →
          (∃ moved : String, IsDocument w moved.toList) ∧
            ∀ moved : String, IsDocument w moved.toList → Settings.parse moved = .ok s := by
  constructor
  · intro text d parsed
    exact decodeText_of_rearranged intact_design keeps_design parsed
  · intro text s parsed
    exact decodeText_of_rearranged intact_settings keeps_settings parsed

def Design.label : Design := { root := Node.new .text "Card", localState := none }

/-- The value of a text of the label, with the members before its root and those of its node. -/
def labelValue (before node : List (Lexeme × Value)) : Value :=
  .object (before ++ [(lexemeOf "root", .object [(lexemeOf "node", .object node .closed)] .closed)])
    .closed

def labelText (before node : List (String × String)) : List Char :=
  objectText ((before.map fun m => (m.1, quoted m.2))
    ++ [("root", objectText [("node", objectText (node.map fun m => (m.1, quoted m.2)))])])

def textMembers (members : List (String × String)) : List (Lexeme × Value) :=
  members.map fun m => (lexemeOf m.1, .string (lexemeOf m.2))

theorem isDocument_labelText (before node : List (String × String)) :
    IsDocument (labelValue (textMembers before) (textMembers node))
      (String.ofList (labelText before node)).toList := by
  have texts (members : List (String × String)) :
      List.Forall₂ (fun v m => v.1 = lexemeOf m.1 ∧ Writes v.2 m.2) (textMembers members)
        (members.map fun m => (m.1, quoted m.2)) := by
    rw [textMembers, List.forall₂_map_left_iff, List.forall₂_map_right_iff, List.forall₂_same]
    exact fun m _ => ⟨rfl, .string (writesString_quoted m.2)⟩
  have root : Writes (.object [(lexemeOf "node", .object (textMembers node) .closed)] .closed)
      (objectText [("node", objectText (node.map fun m => (m.1, quoted m.2)))]) :=
    writes_objectText (.cons ⟨rfl, writes_objectText (texts node)⟩ .nil)
  exact isDocument_ofList
    (writes_objectText (List.rel_append (texts before) (.cons ⟨rfl, root⟩ .nil)))

def labelMembers : List (String × String) := [("type", "TEXT"), ("name", "Card"), ("layout", "NONE")]

theorem isDocument_label :
    IsDocument (labelValue [] (textMembers labelMembers)) Design.label.toJson.toList :=
  isDocument_labelText [] labelMembers

theorem parse_label : Design.parse Design.label.toJson = .ok Design.label := by
  have numbers : ∀ x ∈ Design.label.numbers, ReadsBack x := by decide +kernel
  have shallow : nesting Design.label.encode < nestingLimit := by decide +kernel
  exact decodeText_of_spells (spells_design numbers) shallow

/-- The members of the node of a label can be permuted. -/
theorem rearranges_node {members moved : List (Lexeme × Value)} (same : members.Perm moved) :
    Rearranges recordFields (.record .design) (labelValue [] members) (labelValue [] moved) := by
  refine @Rearranges.member _ _ _ _ [] [] _ _ _ _ (text_lexemeOf "root") List.mem_cons_self ?_
  refine @Rearranges.member _ _ _ _ [] [] _ _ _ _ (text_lexemeOf "node") List.mem_cons_self ?_
  exact .permute same

/-- The label is read from a text with a note and with the members of its node in another order. -/
theorem parse_labelText :
    Design.parse Design.label.toJson = .ok Design.label ∧
      Design.parse (String.ofList (labelText [("note", "draft")]
        [("layout", "NONE"), ("name", "Card"), ("type", "TEXT")])) = .ok Design.label := by
  obtain ⟨v, document, moved⟩ := parse_of_rearranged.1 _ _ parse_label
  obtain rfl := document.unique isDocument_label
  have turned := rearranges_node (List.reverse_perm (textMembers labelMembers)).symm
  have note := WritesMember.mk (writesString_quoted "note") blanks_nil blanks_nil
    (Writes.string (writesString_quoted "draft"))
  have noted (node : List (Lexeme × Value)) :
      Rearranges recordFields (.record .design) (labelValue [] node)
        (labelValue (textMembers [("note", "draft")]) node) :=
    @Rearranges.insert _ _ _ [] _ _ _ "note" note (text_lexemeOf "note") (by decide)
  exact ⟨parse_label, (moved _ (.tail (.single turned) (noted _))).2 _ (isDocument_labelText _ _)⟩

end Viewsmith
