import Mathlib.Data.Nat.Basic
import Viewsmith.Proofs.Json.Grammar

/-!
# String literals of documents

A text is written as a string literal (`writesString_quoted`) that spells the text
(`text_lexemeOf`). A character is written in one of three ways: after a backslash, by its number, or as
itself. A string literal is read from exactly the texts that the grammar has for it
(`scanString_of_writesPieces`, `writesString_of_scanString`).
-/

namespace Viewsmith.Json

def pieceOf (c : Char) : Piece :=
  if c.toNat < 0x20 ∧ c ∉ ['\x08', '\x0c', '\n', '\r', '\t'] then .unit c.toNat else .char c

def lexemeOf (text : String) : Lexeme := ⟨text.toList.map pieceOf, none⟩

/-! ## Characters -/

/-- A control character is read back from the two digits of its number. -/
theorem unitValue?_digitChar {n : Nat} (control : n < 0x20) :
    unitValue? '0' '0' (Nat.digitChar (n / 16)) (Nat.digitChar (n % 16)) = some n := by
  have all : ∀ n < 0x20,
      unitValue? '0' '0' (Nat.digitChar (n / 16)) (Nat.digitChar (n % 16)) = some n := by decide
  exact all n control

/-- A written character is the text of its piece. -/
theorem writesPiece_escapeChar (c : Char) : WritesPiece (pieceOf c) (escapeChar c) := by
  unfold escapeChar
  split_ifs with quote backspace feed lf cr tab control
  · rcases quote with rfl | rfl
    · exact .letter rfl
    · exact .letter rfl
  · subst backspace
    exact .letter rfl
  · subst feed
    exact .letter rfl
  · subst lf
    exact .letter rfl
  · subst cr
    exact .letter rfl
  · subst tab
    exact .letter rfl
  · have piece : pieceOf c = .unit c.toNat := by
      rw [pieceOf, if_pos]
      exact ⟨control, by simp [backspace, feed, lf, cr, tab]⟩
    rw [piece]
    exact .unit (unitValue?_digitChar control)
  · have piece : pieceOf c = .char c := by
      rw [pieceOf, if_neg (fun h => control h.1)]
    rw [not_or] at quote
    rw [piece]
    exact .plain quote.1 quote.2 control

theorem spell_pieceOf (c : Char) (pieces : List Piece) :
    spell none (pieceOf c :: pieces) = (spell none pieces).map (c :: ·) := by
  unfold pieceOf
  split_ifs with h
  · have trailing : isTrailingUnit c.toNat = false := by
      simp only [isTrailingUnit, Bool.and_eq_false_iff, decide_eq_false_iff_not]
      omega
    have leading : isLeadingUnit c.toNat = false := by
      simp only [isLeadingUnit, Bool.and_eq_false_iff, decide_eq_false_iff_not]
      omega
    rw [spell.eq_def]
    simp only [trailing, leading, if_neg Bool.false_ne_true, Char.ofNat_toNat]
  · rw [spell]

/-! ## Texts -/

theorem writesPieces_flatMap (text : List Char) :
    WritesPieces (text.map pieceOf) (text.flatMap escapeChar) := by
  induction text with
  | nil => exact .nil
  | cons c rest ih =>
      rw [List.map_cons, List.flatMap_cons]
      exact .cons (writesPiece_escapeChar c) ih

/-- A text is written as a string literal. -/
theorem writesString_quoted (text : String) : WritesString (lexemeOf text) (quoted text) :=
  .mk (writesPieces_flatMap text.toList)

theorem spell_map_pieceOf (text : List Char) : spell none (text.map pieceOf) = .ok text := by
  induction text with
  | nil => rfl
  | cons c rest ih =>
      rw [List.map_cons, spell_pieceOf, ih]
      rfl

/-- What is read from the literal of a text spells that text. -/
theorem text_lexemeOf (text : String) : (lexemeOf text).text = .ok text := by
  rw [lexemeOf, Lexeme.text, spell_map_pieceOf]
  exact congrArg Except.ok String.ofList_toList

/-! ## Reading -/

theorem scanString_letter {letter c : Char} (known : simpleEscape? letter = some c)
    (rest : List Char) :
    scanString ('\\' :: letter :: rest)
      = ((scanString rest).1.push (.char c), (scanString rest).2) := by
  have plain : letter ≠ 'u' := by
    rintro rfl
    cases known
  simp [scanString, plain, known]

theorem scanString_plain {c : Char} (unquoted : c ≠ '"') (unescaped : c ≠ '\\')
    (printed : ¬ c.toNat < 0x20) (rest : List Char) :
    scanString (c :: rest) = ((scanString rest).1.push (.char c), (scanString rest).2) := by
  simp [scanString, unescaped, printed]

theorem scanString_of_writesPiece {p : Piece} {text : List Char} (h : WritesPiece p text)
    (rest : List Char) :
    scanString (text ++ rest) = ((scanString rest).1.push p, (scanString rest).2) := by
  cases h with
  | plain unquoted unescaped printed => exact scanString_plain unquoted unescaped printed rest
  | letter known => exact scanString_letter known rest
  | unit value =>
      simp only [List.cons_append, List.nil_append]
      rw [scanString, value]

theorem scanString_of_writesPieces {pieces : List Piece} {body : List Char}
    (h : WritesPieces pieces body) (rest : List Char) :
    scanString (body ++ '"' :: rest) = (⟨pieces, none⟩, rest) := by
  induction h with
  | nil => rfl
  | cons first _ ih =>
      rw [List.append_assoc, scanString_of_writesPiece first, ih]
      rfl

/-- What is read as a string literal without a fault is the text of that literal. -/
theorem writesPieces_of_scanString (text : List Char) (intact : (scanString text).1.fault = none) :
    ∃ body, text = body ++ '"' :: (scanString text).2 ∧
      WritesPieces (scanString text).1.pieces body := by
  fun_induction scanString text with
  | case2 rest => exact ⟨[], rfl, .nil⟩
  | case4 a b c d more n value lexeme rest scanned ih =>
      rw [scanned] at ih
      obtain ⟨body, shape, pieces⟩ := ih intact
      exact ⟨['\\', 'u', a, b, c, d] ++ body, congrArg (['\\', 'u', a, b, c, d] ++ ·) shape,
        .cons (.unit value) pieces⟩
  | case7 letter more _ _ c known lexeme rest scanned ih =>
      rw [scanned] at ih
      obtain ⟨body, shape, pieces⟩ := ih intact
      exact ⟨['\\', letter] ++ body, congrArg (['\\', letter] ++ ·) shape, .cons (.letter known) pieces⟩
  | case10 c more unquoted _ _ escape alone printed lexeme rest scanned ih =>
      rw [scanned] at ih
      obtain ⟨body, shape, pieces⟩ := ih intact
      have unescaped : c ≠ '\\' := by
        intro backslash
        cases more with
        | nil => exact alone backslash rfl
        | cons e others => exact escape e others backslash rfl
      exact ⟨[c] ++ body, congrArg ([c] ++ ·) shape, .cons (.plain unquoted unescaped printed) pieces⟩
  | _ => cases intact

theorem writesString_of_scanString {text rest : List Char} {l : Lexeme}
    (scanned : scanString text = (l, rest)) (intact : l.fault = none) :
    ∃ literal, '"' :: text = literal ++ rest ∧ WritesString l literal := by
  have read := writesPieces_of_scanString text (by rw [scanned]; exact intact)
  rw [scanned] at read
  obtain ⟨body, rfl, pieces⟩ := read
  obtain ⟨parts, fault⟩ := l
  simp only at intact
  subst intact
  exact ⟨_, by simp, .mk pieces⟩

end Viewsmith.Json
