import Mathlib.Data.List.Induction
import Viewsmith.Proofs.Code.Emitters
import Viewsmith.Proofs.Code.StyleRuns
import Viewsmith.Proofs.Reading.Markup

/-!
# Style tables read back

A reader of style tables, as the language of generated code has them: an entry is a key and a block of
declarations, a declaration a name and a value, and a name stands bare or in quotes. Spaces, tabs and line
ends between entries and declarations are skipped. The table of any run of registrations is read back with
its entries in their order, and nothing is left over (`readSheet_styleTable`).
-/

namespace Viewsmith

/-! ## The reader -/

def isBareName (text : List Char) : Bool :=
  match text with
  | [] => false
  | c :: _ => !c.isDigit && text.all fun d => d.isAlphanum || d = '_' || d = '$'

/-- Reads a text that stands alone up to a character, if it is one that may. -/
def readBare (stop : Char) (allowed : List Char → Bool) (text : List Char) :
    Option (String × List Char) :=
  let bare := text.takeWhile (· ≠ stop)
  if allowed bare then some (String.ofList bare, text.dropWhile (· ≠ stop)) else none

/-- Reads the name of a property: a string literal, or a bare name up to a colon. -/
def readProperty (text : List Char) : Option (String × List Char) :=
  match readLiteral text with
  | some (name, rest) => some (String.ofList name, rest)
  | none => readBare ':' isBareName text

/-- Reads a value: a string literal, or the text of a number up to a comma. -/
def readWrittenValue (text : List Char) : Option (WrittenValue × List Char) :=
  match readLiteral text with
  | some (s, rest) => some (.text (String.ofList s), rest)
  | none => (readBare ',' Decimal.isNumberText text).map fun r => (.number r.1, r.2)

def readDeclaration (text : List Char) : Option ((String × WrittenValue) × List Char) := do
  let (name, rest) ← readProperty text
  let rest ← readToken ": " rest
  let (value, rest) ← readWrittenValue rest
  let rest ← readToken "," rest
  some ((name, value), rest)

/-- Reads items with layout between them, up to a closing token. -/
def readUntil {α : Type} (close : String) (read : List Char → Option (α × List Char)) :
    Nat → List Char → Option (List α × List Char)
  | 0, _ => none
  | fuel + 1, text =>
      match readToken close (skipLayout text) with
      | some rest => some ([], rest)
      | none => do
          let (first, rest) ← read (skipLayout text)
          let (others, rest) ← readUntil close read fuel rest
          some (first :: others, rest)

def readEntry (text : List Char) : Option (WrittenEntry × List Char) := do
  let (key, rest) ← readBare ':' (fun key => !key.isEmpty) text
  let rest ← readToken ": \x7b" rest
  let (declarations, rest) ← readUntil "\x7d," readDeclaration text.length rest
  some (⟨key, declarations⟩, rest)

/-- Reads a text that is the declaration of a style table and nothing else. -/
def readSheet (text : List Char) : Option (List WrittenEntry) :=
  match readToken "const styles = \x7b\x7d;" text with
  | some rest => if rest.isEmpty then some [] else none
  | none => do
      let rest ← readToken "const styles = StyleSheet.create(\x7b" text
      let (entries, rest) ← readUntil "\x7d);" readEntry text.length rest
      if rest.isEmpty then some entries else none

/-! ## Names and values -/

section Tokens

variable {stop : Char} {allowed : List Char → Bool}

theorem readBare_append {text : List Char} (fits : allowed text = true) (within : stop ∉ text)
    (s : List Char) :
    readBare stop allowed (text ++ stop :: s) = some (String.ofList text, stop :: s) := by
  have others : ∀ c ∈ text, decide (c ≠ stop) = true := by
    intro c hc
    rw [decide_eq_true_iff]
    rintro rfl
    exact within hc
  have ends : ¬ decide (stop ≠ stop) = true := by simp
  rw [readBare, List.takeWhile_append_of_pos others, List.dropWhile_append_of_pos others,
    List.takeWhile_cons_of_neg (p := (· ≠ stop)) ends,
    List.dropWhile_cons_of_neg (p := (· ≠ stop)) ends, List.append_nil]
  exact if_pos fits

/-- Only what begins with a quote is read as a literal. -/
theorem readLiteral_of_head {c : Char} {rest : List Char} (single : c ≠ '\'') (double : c ≠ '"') :
    readLiteral (c :: rest) = none := by
  rw [readLiteral, if_neg (not_or.mpr ⟨single, double⟩)]

theorem not_isDigit_of_startsKey {c : Char} (h : startsKey c = true) : c.isDigit = false := by
  rw [Bool.eq_false_iff]
  intro digit
  simp only [Char.isDigit, Bool.and_eq_true, decide_eq_true_eq, UInt32.le_iff_toNat_le] at digit
  change ((decide ('A'.val ≤ c.val ∧ c.val ≤ 'Z'.val)
    || decide ('a'.val ≤ c.val) && decide (c.val ≤ 'z'.val)) || c == '_' || c == '$') = true at h
  simp only [Bool.or_eq_true, Bool.and_eq_true, decide_eq_true_eq, UInt32.le_iff_toNat_le,
    beq_iff_eq] at h
  rcases h with (h | rfl) | rfl
  · have nine : ('9' : Char).val.toNat = 57 := rfl
    have a : ('a' : Char).val.toNat = 97 := rfl
    have A : ('A' : Char).val.toNat = 65 := rfl
    omega
  · revert digit
    decide
  · revert digit
    decide

/-- A key that is written without quotes is a bare name. -/
theorem isBareName_of_isPlainKey {property : String} (plain : isPlainKey property = true) :
    isBareName property.toList = true := by
  have characters : property.toList.all (fun d => d.isAlphanum || d = '_' || d = '$') = true := by
    rw [List.all_eq_true]
    intro c hc
    have continues := continuesKey_of_mem plain hc
    simpa [continuesKey] using continues
  rw [isPlainKey] at plain
  cases shape : property.toList with
  | nil =>
      rw [shape] at plain
      cases plain
  | cons c rest =>
      rw [shape] at plain characters
      rw [Bool.and_eq_true] at plain
      simp only [isBareName, not_isDigit_of_startsKey plain.1, characters]
      rfl

/-- A bare name begins with no quote, no layout and no brace. -/
theorem notMem_of_isBareName {c : Char} {rest : List Char} (bare : isBareName (c :: rest) = true) :
    c ∉ ['\'', '"', ' ', '\t', '\n', '\r', '\x7d'] := by
  have others : ∀ d ∈ ['\'', '"', ' ', '\t', '\n', '\r', '\x7d'],
      (!(d.isAlphanum || d = '_' || d = '$')) = true := List.all_eq_true.mp (by decide)
  intro inside
  have other := others c inside
  rw [Bool.not_eq_true'] at other
  rw [isBareName, Bool.and_eq_true, List.all_cons, Bool.and_eq_true, other] at bare
  cases bare.2.1

theorem readLiteral_bareName {name : List Char} (bare : isBareName name = true) (s : List Char) :
    readLiteral (name ++ s) = none := by
  cases name with
  | nil => cases bare
  | cons c rest =>
      have first := notMem_of_isBareName bare
      rw [List.mem_cons, List.mem_cons, not_or, not_or] at first
      exact readLiteral_of_head first.1 first.2.1

theorem readProperty_propertyText (q : QuoteStyle) (property : String) (s : List Char) :
    readProperty (propertyText q property ++ ':' :: s) = some (property, ':' :: s) := by
  cases plain : isPlainKey property with
  | false =>
      rw [propertyText, plain, if_neg Bool.false_ne_true, readProperty, readLiteral_stringLiteral]
      simp only [String.ofList_toList]
  | true =>
      have bare := isBareName_of_isPlainKey plain
      have within : ':' ∉ property.toList := fun inside =>
        absurd (continuesKey_of_mem plain inside) (by decide)
      rw [propertyText, plain, if_pos rfl, readProperty, readLiteral_bareName bare]
      rw [readBare_append bare within, String.ofList_toList]

theorem readLiteral_number {digits : List Char} (number : Decimal.isNumberText digits = true)
    (s : List Char) : readLiteral (digits ++ s) = none := by
  cases digits with
  | nil => cases number
  | cons c rest =>
      refine readLiteral_of_head ?_ ?_
      all_goals
        rintro rfl
        simp [Decimal.isNumberText, Decimal.isUnsignedText] at number

theorem readWrittenValue_codeText (q : QuoteStyle) {v : Literal}
    (finite : ∀ x, v = .number x → x.isFinite = true) (s : List Char) :
    readWrittenValue (v.written.codeText q ++ ',' :: s) = some (v.written, ',' :: s) := by
  cases v with
  | text t =>
      rw [readWrittenValue, Literal.written, WrittenValue.codeText, readLiteral_stringLiteral]
      simp only [String.ofList_toList]
  | number x =>
      have number := Decimal.isNumberText_codeText (finite x rfl)
      have within : ',' ∉ (Decimal.codeText x).toList := fun inside =>
        absurd (Decimal.isNumberChar_of_mem_codeText inside) (by decide)
      rw [readWrittenValue, Literal.written, WrittenValue.codeText, readLiteral_number number]
      simp only [readBare_append number within, String.ofList_toList, Option.map_some]

end Tokens

/-! ## Blocks -/

/-- Whether a reader reads a text that ends a line as an item, and the text begins with neither layout nor
a brace. -/
structure ReadsItem {α : Type} (o : WriterOptions) (read : List Char → Option (α × List Char))
    (text : List Char) (x : α) : Prop where
  first : ∃ c, text.head? = some c ∧ isLayout c = false ∧ c ≠ '\x7d'
  read : ∀ s : List Char, read (text ++ s) = some (x, o.lineEnd.text.toList ++ s)

def blockText {α : Type} (o : WriterOptions) (level : Nat) (text : α → List Char) (xs : List α) :
    List Char :=
  xs.flatMap fun x => o.indentation level ++ text x

section Blocks

variable {α β : Type} {o : WriterOptions} {close : String}
  {read : List Char → Option (β × List Char)} {text : α → List Char} {meant : α → β} {xs : List α}

theorem ReadsItem.skipLayout_eq {text : List Char} {x : β} (h : ReadsItem o read text x)
    {blank : List Char} (layout : IsBlank blank) (s : List Char) :
    skipLayout (blank ++ (text ++ s)) = text ++ s := by
  obtain ⟨c, first, visible, -⟩ := h.first
  refine skipLayout_append (c := c) layout ?_ visible
  rw [List.head?_append, first, Option.some_or]

/-- An item is not taken for the brace that closes a block. -/
theorem ReadsItem.not_close {text : List Char} {x : β} (h : ReadsItem o read text x)
    (closes : close.toList.head? = some '\x7d') (s : List Char) : readToken close (text ++ s) = none := by
  obtain ⟨c, first, -, brace⟩ := h.first
  refine readToken_of_head closes ?_
  rw [List.head?_append, first, Option.some_or]
  exact fun same => brace (Option.some.inj same)

/-- A reader needs no more fuel for items than they have characters. -/
theorem length_le_blockText (level : Nat) (items : ∀ x ∈ xs, ReadsItem o read (text x) (meant x)) :
    xs.length ≤ (blockText o level text xs).length := by
  induction xs with
  | nil => exact Nat.zero_le _
  | cons x xs ih =>
      rw [List.forall_mem_cons] at items
      obtain ⟨c, first, -, -⟩ := items.1.first
      have some := List.length_pos_of_ne_nil (ne_nil_of_head? first)
      have others := ih items.2
      rw [blockText] at others ⊢
      rw [List.flatMap_cons, List.length_append, List.length_append, List.length_cons]
      omega

/-- A block is read up to the token that closes it. -/
theorem readUntil_blockText (level : Nat) (items : ∀ x ∈ xs, ReadsItem o read (text x) (meant x))
    (closes : close.toList.head? = some '\x7d') {fuel : Nat} (enough : xs.length < fuel)
    {blank indentation : List Char} (layout : IsBlank blank) (indented : IsBlank indentation)
    (s : List Char) :
    readUntil close read fuel
        (blank ++ (blockText o level text xs ++ (indentation ++ (close.toList ++ s))))
      = some (xs.map meant, s) := by
  obtain ⟨fuel, rfl⟩ := Nat.exists_eq_succ_of_ne_zero (Nat.ne_zero_of_lt enough)
  induction xs generalizing fuel blank with
  | nil =>
      have begins : (close.toList ++ s).head? = some '\x7d' := by
        rw [List.head?_append, closes, Option.some_or]
      rw [blockText, List.flatMap_nil, List.nil_append, ← List.append_assoc, readUntil,
        skipLayout_append (isBlank_append layout indented) begins (by decide), readToken_append]
      rfl
  | cons x xs ih =>
      rw [List.forall_mem_cons] at items
      rw [List.length_cons, Nat.succ_lt_succ_iff] at enough
      obtain ⟨fuel, rfl⟩ := Nat.exists_eq_succ_of_ne_zero (Nat.ne_zero_of_lt enough)
      have front := isBlank_append layout (isBlank_indentation o level)
      have others := ih items.2 (isBlank_lineEnd o) fuel enough
      rw [blockText] at others ⊢
      rw [List.flatMap_cons, List.append_assoc, List.append_assoc, ← List.append_assoc blank, readUntil,
        items.1.skipLayout_eq front, items.1.not_close closes]
      simp only [items.1.read, bind, Option.bind, others]
      rfl

end Blocks

/-! ## Declarations and entries -/

theorem visible_of_notMem {c : Char} (outside : c ∉ [' ', '\t', '\n', '\r', '\x7d']) :
    isLayout c = false ∧ c ≠ '\x7d' := by
  simp only [List.mem_cons, not_or] at outside
  obtain ⟨space, tab, lf, cr, brace, -⟩ := outside
  exact ⟨by simp [isLayout, space, tab, lf, cr], brace⟩

/-- A bare name begins with a character that is neither layout nor a brace, and so does a literal. -/
theorem exists_head?_propertyText (q : QuoteStyle) (property : String) :
    ∃ c, (propertyText q property).head? = some c ∧ isLayout c = false ∧ c ≠ '\x7d' := by
  cases plain : isPlainKey property with
  | false =>
      obtain ⟨rest, shape⟩ := exists_cons_stringLiteral q property.toList
      rw [propertyText, plain, if_neg Bool.false_ne_true, shape]
      exact ⟨q.char, rfl, by cases q <;> decide, by cases q <;> decide⟩
  | true =>
      have bare := isBareName_of_isPlainKey plain
      rw [propertyText, plain, if_pos rfl]
      cases shape : property.toList with
      | nil =>
          rw [shape] at bare
          cases bare
      | cons c rest =>
          rw [shape] at bare
          have first := notMem_of_isBareName bare
          exact ⟨c, rfl, visible_of_notMem fun inside =>
            first (List.mem_cons_of_mem _ (List.mem_cons_of_mem _ inside))⟩

theorem exists_head?_entryKey (label : String) (number : Nat) :
    ∃ c, (entryKey label number).toList.head? = some c ∧ isLayout c = false ∧ c ≠ '\x7d' := by
  obtain ⟨c, rest, shape, identifier⟩ := exists_cons_entryKey label number
  have others : ∀ d ∈ [' ', '\t', '\n', '\r', '\x7d'], decide (¬ IsIdentifierChar d) = true :=
    List.all_eq_true.mp (by decide)
  have outside : c ∉ [' ', '\t', '\n', '\r', '\x7d'] := fun inside =>
    of_decide_eq_true (others c inside) identifier
  exact ⟨c, by rw [shape]; rfl, visible_of_notMem outside⟩

section Lines

variable {o : WriterOptions} {label : String}

def declarationText (o : WriterOptions) (d : String × Literal) : List Char :=
  (declarationLine o.quoteStyle (d.1, d.2.written)).text ++ o.lineEnd.text.toList

theorem readsItem_declaration {d : String × Literal}
    (finite : ∀ x, d.2 = .number x → x.isFinite = true) :
    ReadsItem o readDeclaration (declarationText o d) (d.1, d.2.written) := by
  have parts (s : List Char) : declarationText o d ++ s
      = propertyText o.quoteStyle d.1 ++ ':' :: ([' ']
        ++ (d.2.written.codeText o.quoteStyle ++ ',' :: (o.lineEnd.text.toList ++ s))) := by
    simp [declarationText, declarationLine]
  constructor
  · obtain ⟨c, first, visible⟩ := exists_head?_propertyText o.quoteStyle d.1
    have whole := parts []
    rw [List.append_nil] at whole
    refine ⟨c, ?_, visible⟩
    rw [whole, List.head?_append, first, Option.some_or]
  · intro s
    have colon (t : List Char) : readToken ": " (':' :: ([' '] ++ t)) = some t :=
      readToken_append ": " t
    have comma (t : List Char) : readToken "," (',' :: t) = some t := readToken_append "," t
    rw [parts, readDeclaration, readProperty_propertyText]
    simp only [bind, Option.bind, colon, readWrittenValue_codeText o.quoteStyle finite, comma]

def entryText (o : WriterOptions) (e : StyleEntry) : List Char :=
  e.key.toList ++ ": \x7b".toList ++ (o.lineEnd.text.toList
    ++ (blockText o 2 (declarationText o) e.declarations
      ++ (o.indentation 1 ++ ("\x7d,".toList ++ o.lineEnd.text.toList))))

theorem readsItem_entry {e : StyleEntry} {number : Nat} (numbered : e.key = entryKey label number)
    (finite : ∀ d ∈ e.declarations, ∀ x, d.2 = .number x → x.isFinite = true) :
    ReadsItem o readEntry (entryText o e) e.written := by
  have declarations : ∀ d ∈ e.declarations,
      ReadsItem o readDeclaration (declarationText o d) (d.1, d.2.written) :=
    fun d hd => readsItem_declaration (finite d hd)
  obtain ⟨c, first, visible⟩ := exists_head?_entryKey label number
  rw [← numbered] at first
  constructor
  · refine ⟨c, ?_, visible⟩
    rw [entryText, List.append_assoc, List.head?_append, first, Option.some_or]
  · intro s
    have parts : entryText o e ++ s = e.key.toList ++ ':' :: ([' ', '\x7b'] ++ (o.lineEnd.text.toList
        ++ (blockText o 2 (declarationText o) e.declarations
          ++ (o.indentation 1 ++ ("\x7d,".toList ++ (o.lineEnd.text.toList ++ s)))))) := by
      simp [entryText]
    have named : (fun key : List Char => !key.isEmpty) e.key.toList = true :=
      congrArg not (List.isEmpty_eq_false_iff.mpr (ne_nil_of_head? first))
    have within : ':' ∉ e.key.toList := by
      rw [numbered]
      exact fun inside => absurd (mem_entryKey inside) (by decide)
    have opening (t : List Char) : readToken ": \x7b" (':' :: ([' ', '\x7b'] ++ t)) = some t :=
      readToken_append ": \x7b" t
    have enough : e.declarations.length < (entryText o e ++ s).length := by
      have bound := length_le_blockText 2 declarations
      have brace : 0 < "\x7d,".toList.length := by decide
      simp only [entryText, List.length_append]
      omega
    have closes : "\x7d,".toList.head? = some '\x7d' := rfl
    have inside := readUntil_blockText 2 declarations closes enough
      (isBlank_lineEnd o) (isBlank_indentation o 1) (o.lineEnd.text.toList ++ s)
    rw [readEntry]
    generalize (entryText o e ++ s).length = fuel at inside ⊢
    rw [parts, readBare_append named within]
    simp only [bind, Option.bind, opening, inside, String.ofList_toList]
    rfl

end Lines

/-! ## Tables -/

/-- Only declarations that can be written are stored. -/
theorem isValid_of_mem_distinctStyles {calls : List StyleCall} :
    ∀ ds ∈ distinctStyles calls, ds.isValid = true := by
  induction calls using List.reverseRecOn with
  | nil => exact List.forall_mem_nil _
  | append_singleton calls c ih =>
      rw [distinctStyles_append, List.foldl_cons, List.foldl_nil, addDistinct]
      split
      · rename_i added
        rw [List.forall_mem_append, List.forall_mem_singleton]
        exact ⟨ih, (StyleCall.isStored_eq_true.mp added.1).2⟩
      · exact ih

/-- The numbers in a table are finite. -/
theorem isFinite_of_mem_entries {label : String} {calls : List StyleCall} {e : StyleEntry}
    (he : e ∈ (styleTable label calls).entries) {d : String × Literal} (hd : d ∈ e.declarations)
    {x : Float} (number : d.2 = .number x) : x.isFinite = true := by
  have stored : e.declarations ∈ (distinctStyles calls).map fun ds => sortDeclarations ds.entries := by
    rw [← (holds_styleTable label calls).sorted]
    exact List.mem_map_of_mem he
  obtain ⟨ds, known, sorted⟩ := List.mem_map.mp stored
  have valid := isValid_of_mem_distinctStyles ds known
  rw [Declarations.isValid, List.all_eq_true] at valid
  rw [← sorted] at hd
  have writable := valid d ((sortByKey_perm Prod.fst ds.entries).mem_iff.mp hd)
  rw [Declarations.isWritable, number, Bool.and_eq_true] at writable
  exact writable.2

theorem layOut_declarationLine (o : WriterOptions) (d : String × Literal) :
    Line.layOut o (declarationLine o.quoteStyle (d.1, d.2.written))
      = o.indentation 2 ++ declarationText o d := by
  obtain ⟨c, first, -⟩ := exists_head?_propertyText o.quoteStyle d.1
  have nonempty : (declarationLine o.quoteStyle (d.1, d.2.written)).text ≠ [] := by
    refine ne_nil_of_head? (c := c) ?_
    rw [declarationLine, List.append_assoc, List.append_assoc, List.head?_append, first, Option.some_or]
  rw [Line.layOut, if_neg nonempty, List.append_assoc]
  rfl

theorem layOutLines_entryLines (o : WriterOptions) {label : String} {e : StyleEntry} {number : Nat}
    (numbered : e.key = entryKey label number) :
    layOutLines o (entryLines o.quoteStyle e.written) = o.indentation 1 ++ entryText o e := by
  obtain ⟨c, first, -⟩ := exists_head?_entryKey label number
  have opening : Line.layOut o ⟨1, e.key.toList ++ ": \x7b".toList⟩
      = o.indentation 1 ++ (e.key.toList ++ ": \x7b".toList ++ o.lineEnd.text.toList) := by
    rw [← numbered] at first
    rw [Line.layOut, if_neg (List.append_ne_nil_of_left_ne_nil (ne_nil_of_head? first) _),
      List.append_assoc]
  have closing : Line.layOut o ⟨1, "\x7d,".toList⟩
      = o.indentation 1 ++ ("\x7d,".toList ++ o.lineEnd.text.toList) := by
    rw [Line.layOut, if_neg (by decide), List.append_assoc]
  have inside : layOutLines o (e.written.declarations.map (declarationLine o.quoteStyle))
      = blockText o 2 (declarationText o) e.declarations := by
    rw [StyleEntry.written, written, layOutLines, List.map_map, List.flatMap_map, blockText]
    exact congrArg (e.declarations.flatMap ·) (funext (layOut_declarationLine o))
  rw [entryLines, layOutLines_append, layOutLines_cons, layOutLines_cons, layOutLines_nil,
    List.append_nil, inside, closing, StyleEntry.written, opening, entryText]
  simp only [List.append_assoc]

/-- A table with entries is written entry by entry. -/
theorem chars_writeSheet {t : StyleTable} {label : String} {sets : List WrittenStyles}
    (lists : t.Lists label sets) (used : t.isEmpty = false) (o : WriterOptions) (imports : ImportSet) :
    (t.writeSheet (.new o) imports).1.chars
      = "const styles = StyleSheet.create(\x7b".toList ++ (o.lineEnd.text.toList
          ++ (blockText o 1 (entryText o) t.entries ++ "\x7d);".toList)) := by
  have entries : layOutLines o ((t.entries.map StyleEntry.written).flatMap (entryLines o.quoteStyle))
      = blockText o 1 (entryText o) t.entries := by
    rw [layOutLines, List.flatMap_assoc, List.flatMap_map, blockText]
    refine List.flatMap_congr fun e he => ?_
    obtain ⟨number, numbered⟩ := lists.exists_entryKey e he
    exact layOutLines_entryLines o numbered
  have header : Line.layOut o ⟨0, "const styles = StyleSheet.create(\x7b".toList⟩
      = "const styles = StyleSheet.create(\x7b".toList ++ o.lineEnd.text.toList := by
    rw [Line.layOut, if_neg (by decide)]
    rfl
  rw [writeSheet_of_entries lists used, ← lists.entries,
    CodeBuffer.writeChars_of_atLineStart (CodeBuffer.atLineStart_addLines rfl _) (by decide),
    CodeBuffer.chars_append, CodeBuffer.chars_addLines, CodeBuffer.options_new, layOutLines_cons, header,
    entries]
  simp only [List.append_assoc]
  rfl

/-- Entries are read back from the lines that a table with entries has. -/
theorem readSheet_blockText {o : WriterOptions} {entries : List StyleEntry}
    (items : ∀ e ∈ entries, ReadsItem o readEntry (entryText o e) e.written) :
    readSheet ("const styles = StyleSheet.create(\x7b".toList ++ (o.lineEnd.text.toList
        ++ (blockText o 1 (entryText o) entries ++ "\x7d);".toList)))
      = some (entries.map StyleEntry.written) := by
  have clash : ¬ "const styles = \x7b\x7d;".toList <+: "const styles = StyleSheet.create(\x7b".toList ∧
      ¬ "const styles = StyleSheet.create(\x7b".toList <+: "const styles = \x7b\x7d;".toList := by
    decide
  have closes : "\x7d);".toList.head? = some '\x7d' := rfl
  have nothing : IsBlank [] := List.forall_mem_nil _
  have inside {fuel : Nat} (enough : entries.length < fuel) :
      readUntil "\x7d);" readEntry fuel
          (o.lineEnd.text.toList ++ (blockText o 1 (entryText o) entries ++ "\x7d);".toList))
        = some (entries.map StyleEntry.written, []) := by
    have read := readUntil_blockText 1 items closes enough (isBlank_lineEnd o) nothing []
    rwa [List.append_nil, List.nil_append] at read
  rw [readSheet, readToken_clash clash.1 clash.2]
  simp only [readToken_append, bind, Option.bind]
  rw [inside]
  · rfl
  · have bound := length_le_blockText 1 items
    have header : 0 < "const styles = StyleSheet.create(\x7b".toList.length := by decide
    simp only [List.length_append]
    omega

/-- The style table of any run of registrations is read back from the declaration that is written for it,
whatever its label and the layout: the same keys in the same order, and under each of them the same
properties in the same order, with the same texts as texts and the same numbers as numbers. -/
theorem readSheet_styleTable (label : String) (calls : List StyleCall) (o : WriterOptions)
    (imports : ImportSet) :
    readSheet ((styleTable label calls).writeSheet (.new o) imports).1.chars
      = some ((styleTable label calls).entries.map StyleEntry.written) := by
  have lists := (holds_styleTable label calls).lists
  cases empty : (styleTable label calls).isEmpty with
  | true =>
      have none := List.isEmpty_iff.mp (lists.isEmpty ▸ empty)
      rw [writeSheet_of_empty empty, lists.entries, none]
      rfl
  | false =>
      rw [chars_writeSheet lists empty]
      refine readSheet_blockText fun e he => ?_
      obtain ⟨number, numbered⟩ := lists.exists_entryKey e he
      exact readsItem_entry numbered fun d hd x => isFinite_of_mem_entries he hd

/-- A name that looks like the end of its block stands in quotes. -/
example : readSheet
      "const styles = StyleSheet.create(\x7bc_0: \x7b'\x7d,': 'a: 1,', top: -0.5,\x7d,\x7d);".toList
    = some [⟨"c_0", [("\x7d,", .text "a: 1,"), ("top", .number "-0.5")]⟩] := by
  decide +kernel

end Viewsmith
