import Mathlib.Data.List.Basic
import Viewsmith.Design.Codec
import Viewsmith.Proofs.Json.Decoding

/-!
# Reading documents back

A document that is written and read again is the same document (`parse_toJson`): what is left out is
what has its default, and lists and maps keep their order. Two things are asked of it. Its numbers
have to survive being written and read, which is a matter of the numbers alone, and it must not nest
deeper than a reader goes.
-/

namespace Viewsmith

open Json

/-! ## Numbers -/

/-- The number that a numeral means, if a text is a numeral. -/
def readNumber? (text : String) : Option Float :=
  match scanNumeral text.toList with
  | .read numeral [] => numeral.value?.map Number.toFloat
  | _ => none

/-- Whether a number is read back from its text in a document. -/
def ReadsBack (x : Float) : Prop := readNumber? (Decimal.documentText x) = some x

instance (x : Float) : Decidable (ReadsBack x) :=
  inferInstanceAs (Decidable (_ = _))

def Literal.numbers : Literal → List Float
  | .number x => [x]
  | .text _ => []

mutual
def Node.numbers : Node → List Float
  | ⟨_, _, _, _, children, styles, _⟩ =>
      styles.entries.flatMap (fun e => e.2.numbers) ++ Node.numbersOf children

def Node.numbersOf : List Node → List Float
  | [] => []
  | n :: rest => n.numbers ++ Node.numbersOf rest
end

def LocalState.numbers (state : LocalState) : List Float :=
  state.entries.flatMap fun page => page.2.entries.flatMap fun component =>
    component.2.flatMap fun entry => entry.value.numbers

def Design.numbers (d : Design) : List Float :=
  d.root.numbers ++ (d.localState.map LocalState.numbers).getD []

/-! ## Values -/

section Values

variable {limit : Nat}

theorem spells_number {x y : Float} (back : readNumber? (Decimal.documentText x) = some y) :
    Spells limit decodeLiteral (Decimal.documentText x).toList (.number y) := by
  rw [readNumber?] at back
  split at back
  case h_2 => cases back
  case h_1 numeral scanned =>
    obtain ⟨n, value, rfl⟩ := Option.map_eq_some_iff.mp back
    obtain ⟨text, shape, writes⟩ := writes_of_scanNumeral scanned
    rw [List.append_nil] at shape
    rw [shape]
    refine ⟨(nests_of_writesNumeral writes).isClosed, fun _ => ⟨_, reads_numeral writes, ?_⟩⟩
    simp only [decodeLiteral, Value.data, value]

theorem spells_literal {value : Literal} (numbers : ∀ x ∈ value.numbers, ReadsBack x) :
    Spells limit decodeLiteral value.encode value := by
  cases value with
  | number x => exact spells_number (numbers x List.mem_cons_self)
  | text s =>
      refine ⟨(nests_quoted s).isClosed, fun _ => ⟨_, reads_quoted s, ?_⟩⟩
      simp only [decodeLiteral, Value.data, text_lexemeOf]
      rfl

theorem spells_map {α : Type} {decode : Decoder α} {encode : α → List Char} {m : OrderedMap α}
    (spells : ∀ e ∈ m.entries, Spells limit decode (encode e.2) e.2) :
    Spells (limit + 1) (orderedMap decode) (encodeMap encode m) m :=
  spells_orderedMap spells

theorem spells_declarations {ds : Declarations}
    (numbers : ∀ x ∈ ds.entries.flatMap (fun e => e.2.numbers), ReadsBack x) :
    Spells (limit + 1) (orderedMap decodeLiteral) (encodeMap Literal.encode ds) ds :=
  spells_map fun e he => spells_literal fun x hx => numbers x (List.mem_flatMap.mpr ⟨e, he, hx⟩)

theorem spells_kind (kind : NodeKind) : Spells limit decodeKind (quoted kind.tag) kind :=
  (spells_string kind.tag).bind (by rw [NodeKind.ofTag?_tag])

theorem spells_layout (layout : LayoutMode) :
    Spells limit decodeLayout (quoted layout.name) layout :=
  spells_oneOf (by cases layout <;> decide)

theorem spells_page (name : String) : Spells (limit + 1) decodePage (encodePage name) name := by
  have fields : SpellsFields limit pageFields [("name", quoted name)] (name, ()) :=
    .present (spells_string name) .nil
  exact (spells_record _ fields (by decide)).bind rfl

end Values

/-! ## Fields with defaults -/

section Fields

variable {limit : Nat} {α : Type} {fs : List Field} {members : List (String × List Char)}
  {xs : Fields fs}

theorem spellsFields_optionalMember {decode : Decoder α} {encode : α → List Char} {x : Option α}
    (name : String) (spells : ∀ y ∈ x, Spells limit decode (encode y) y)
    (refuses : ∀ y, decode limit .null ≠ .ok y) (others : SpellsFields limit fs members xs) :
    SpellsFields limit (⟨name, Option α, optional decode, some none⟩ :: fs)
      (optionalMember name encode x ++ members) (x, xs) := by
  cases x with
  | none => exact .omitted rfl others
  | some y => exact .present ((spells y rfl).optional (refuses y)) others

theorem spellsFields_memberUnless {decode : Decoder α} {omitted : Bool} {text : List Char}
    {x default : α} (name : String) (same : omitted = true → default = x)
    (spells : Spells limit decode text x) (others : SpellsFields limit fs members xs) :
    SpellsFields limit (⟨name, α, decode, some default⟩ :: fs)
      (memberUnless omitted name text ++ members) (x, xs) := by
  cases omitted with
  | true => exact .omitted (congrArg some (same rfl)) others
  | false => exact .present spells others

end Fields

/-! ## Nodes -/

theorem encodeNodes_eq_map (ns : List Node) : encodeNodes ns = ns.map Node.encode := by
  induction ns with
  | nil => rfl
  | cons n rest ih => rw [encodeNodes, ih, List.map_cons]

def Node.members (n : Node) : List (String × List Char) :=
  [("type", quoted n.kind.tag), ("name", quoted n.name)]
    ++ (optionalMember "page" encodePage n.page
    ++ ([("layout", quoted n.layout.name)]
    ++ (memberUnless n.children.isEmpty "children" (arrayText (n.children.map Node.encode))
    ++ (memberUnless n.styles.isEmpty "styles" (encodeMap Literal.encode n.styles)
    ++ (optionalMember "characters" quoted n.characters ++ [])))))

theorem Node.encode_eq (n : Node) : n.encode = objectText n.members := by
  obtain ⟨kind, name, page, layout, children, styles, characters⟩ := n
  rw [encode, members, encodeNodes_eq_map]
  simp only [List.append_assoc, List.append_nil]

theorem nodup_nodeFields (decodeChild : Decoder Node) :
    ((nodeFields decodeChild).map Field.name).Nodup := by
  simp [nodeFields]

section Nodes

variable {n : Node} {limit : Nat}

/-- The members of a node spell its fields if the texts of its children spell the children. -/
theorem spellsFields_members
    (numbers : ∀ x ∈ n.styles.entries.flatMap (fun e => e.2.numbers), ReadsBack x)
    (children : ∀ child ∈ n.children, Spells limit decodeNode child.encode child) :
    SpellsFields (limit + 1) (nodeFields fun _ => decodeNode limit) n.members
      (n.kind, n.name, n.page, n.layout, n.children, n.styles, n.characters, ()) := by
  have row : Spells (limit + 1) (sequence fun _ => decodeNode limit)
      (arrayText (n.children.map Node.encode)) n.children :=
    spells_sequence fun child inside => (children child inside).congr rfl
  refine .present (spells_kind n.kind) (.present (spells_string n.name) ?_)
  refine spellsFields_optionalMember "page" (fun page _ => spells_page page) ?_ ?_
  · intro page refused
    cases refused
  refine .present (spells_layout n.layout) ?_
  refine spellsFields_memberUnless "children" ?_ row ?_
  · exact fun empty => (List.isEmpty_iff.mp empty).symm
  refine spellsFields_memberUnless "styles" ?_ (spells_declarations numbers) ?_
  · exact fun empty => OrderedMap.ext (List.isEmpty_iff.mp empty).symm
  refine spellsFields_optionalMember "characters" (fun text _ => spells_string text) ?_ .nil
  intro characters refused
  cases refused

/-- The text of a node spells the node if the texts of its children spell the children. -/
theorem spells_node_of_children
    (numbers : ∀ x ∈ n.styles.entries.flatMap (fun e => e.2.numbers), ReadsBack x)
    (children : ∀ child ∈ n.children, ∀ limit, Spells limit decodeNode child.encode child)
    (limit : Nat) : Spells limit decodeNode n.encode n := by
  have fields (limit : Nat) :=
    spellsFields_members numbers fun child inside => children child inside limit
  obtain ⟨closed, opened, -⟩ := nests_objectText (fields 0).closed
  rw [n.encode_eq]
  match limit with
  | 0 => exact ⟨closed, fun allowed => by omega⟩
  | 1 => exact ⟨closed, fun allowed => by omega⟩
  | limit + 2 =>
      have whole := spells_record "struct Node" (fields limit) (nodup_nodeFields _)
      obtain ⟨kind, name, page, layout, children, styles, characters⟩ := n
      have node : Spells (limit + 2) (decodeNodeWith fun _ => decodeNode limit) (objectText _) _ :=
        whole.bind rfl
      exact node.congr rfl

end Nodes

mutual
/-- The text of a node spells the node. -/
theorem spells_node : ∀ n : Node, (∀ x ∈ n.numbers, ReadsBack x) → ∀ limit : Nat,
    Spells limit decodeNode n.encode n
  | ⟨kind, name, page, layout, children, styles, characters⟩, numbers, limit => by
      rw [Node.numbers, List.forall_mem_append] at numbers
      exact spells_node_of_children numbers.1 (spells_nodes children numbers.2) limit

/-- The texts of nodes spell the nodes. -/
theorem spells_nodes : ∀ ns : List Node, (∀ x ∈ Node.numbersOf ns, ReadsBack x) →
    ∀ n ∈ ns, ∀ limit : Nat, Spells limit decodeNode n.encode n
  | [], _, n, inside, _ => absurd inside List.not_mem_nil
  | first :: rest, numbers, n, inside, limit => by
      rw [Node.numbersOf, List.forall_mem_append] at numbers
      rcases List.mem_cons.mp inside with same | inside
      · rw [same]
        exact spells_node first numbers.1 limit
      · exact spells_nodes rest numbers.2 n inside limit
end

/-! ## Documents -/

section Documents

variable {limit : Nat}

theorem spells_stateEntry {e : StateEntry} (numbers : ∀ x ∈ e.value.numbers, ReadsBack x) :
    Spells (limit + 1) decodeStateEntry e.encode e := by
  have items : SpellsItems limit stateEntryFields [quoted e.name, e.value.encode]
      (e.name, e.value, ()) :=
    .cons (spells_string e.name) (.cons (spells_literal numbers) .nil)
  exact (spells_tuple _ items).bind rfl

theorem spells_localState {state : LocalState} (numbers : ∀ x ∈ state.numbers, ReadsBack x) :
    Spells (limit + 4) decodeLocalState (encodeLocalState state) state := by
  refine spells_map fun page hpage => ?_
  refine spells_map fun component hcomponent => ?_
  refine spells_sequence fun entry hentry => ?_
  refine spells_stateEntry fun x hx => numbers x ?_
  rw [LocalState.numbers]
  simp only [List.mem_flatMap]
  exact ⟨page, hpage, component, hcomponent, entry, hentry, hx⟩

theorem spells_root {n : Node} (numbers : ∀ x ∈ n.numbers, ReadsBack x) :
    Spells (limit + 1) decodeRoot (objectText [("node", n.encode)]) n := by
  have fields : SpellsFields limit rootFields [("node", n.encode)] (n, ()) :=
    .present (spells_node n numbers limit) .nil
  exact (spells_record _ fields (by simp [rootFields])).bind rfl

/-- The text of a document spells the document. -/
theorem spells_design {d : Design} (numbers : ∀ x ∈ d.numbers, ReadsBack x) :
    Spells (limit + 5) decodeDesign d.encode d := by
  rw [Design.numbers, List.forall_mem_append] at numbers
  have fields : SpellsFields (limit + 4) designFields
      (("root", objectText [("node", d.root.encode)])
        :: (optionalMember "localState" encodeLocalState d.localState ++ []))
      (d.root, d.localState, ()) := by
    refine .present (spells_root numbers.1) (spellsFields_optionalMember "localState" ?_ ?_ .nil)
    · intro state present
      refine spells_localState fun x hx => numbers.2 x ?_
      rw [present]
      exact hx
    · intro state refused
      cases refused
  rw [List.append_nil] at fields
  exact (spells_record _ fields (by simp [designFields])).bind rfl

end Documents

/-- Reading undoes writing: a document whose numbers are read back from their own texts, and in whose
text at most 127 arrays and objects are open at once, is read back as it is. -/
theorem parse_toJson (d : Design) (numbers : ∀ x ∈ d.numbers, ReadsBack x)
    (shallow : nesting d.encode ≤ 127) : Design.parse d.toJson = .ok d :=
  decodeText_of_spells (spells_design numbers) (Nat.lt_succ_of_le shallow)

/-- A document with what a writer has to take care of: escapes, a text without characters, fields that
are left out, whole and fractional numbers. -/
def Design.notes : Design :=
  { root :=
      { kind := .frame
        name := "Notes \"2\""
        page := some "Home"
        layout := .vertical
        children := [(Node.new .text "Empty").withCharacters "", Node.new .rectangle "Line\n\u2028"]
        styles := .ofList [("width", .number 16), ("opacity", .number 0.5), ("color", .text "#fff")]
        characters := none }
    localState := some (.ofList [("Home", .ofList [("Notes", [⟨"open", .number (-1)⟩])])]) }

/-- The document is read back. -/
theorem parse_notes :
    ((∀ x ∈ Design.notes.numbers, ReadsBack x) ∧ nesting Design.notes.encode ≤ 127) ∧
      Design.parse Design.notes.toJson = .ok Design.notes := by
  have numbers : ∀ x ∈ Design.notes.numbers, ReadsBack x := by decide +kernel
  have shallow : nesting Design.notes.encode ≤ 127 := by decide +kernel
  exact ⟨⟨numbers, shallow⟩, parse_toJson Design.notes numbers shallow⟩

end Viewsmith
