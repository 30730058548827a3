import Mathlib.Data.List.Forall2
import Viewsmith.Json.Encoder

/-!
# The grammar of documents

Which texts write which values, told without a reader: literal words, numerals, string literals, and
lists with blanks around their entries. A value has many texts; numerals and string literals are told
apart by how they are written, so a text is that of one value.
-/

namespace Viewsmith.Json

/-! ## Blanks -/

def Blanks (text : List Char) : Prop := ∀ c ∈ text, isBlank c = true

theorem blanks_nil : Blanks [] := List.forall_mem_nil _

/-! ## Numerals -/

structure IsDigits (text : List Char) : Prop where
  nonempty : text ≠ []
  digits : ∀ c ∈ text, c.isDigit = true

/-- The text of a fraction: nothing, or a point and digits. -/
inductive WritesFraction : List Char → List Char → Prop where
  | none : WritesFraction [] []
  | some {digits : List Char} (run : IsDigits digits) : WritesFraction digits ('.' :: digits)

/-- The text of a sign, which may be left out if it is a plus. -/
inductive WritesSign : Bool → List Char → Prop where
  | none : WritesSign false []
  | plus : WritesSign false ['+']
  | minus : WritesSign true ['-']

/-- The text of an exponent: nothing, or its letter, a sign and digits. -/
inductive WritesExponent : Option (Bool × List Char) → List Char → Prop where
  | none : WritesExponent none []
  | some {mark : Char} {minus : Bool} {sign digits : List Char} (letter : mark = 'e' ∨ mark = 'E')
      (signed : WritesSign minus sign) (run : IsDigits digits) :
      WritesExponent (some (minus, digits)) (mark :: (sign ++ digits))

/-- The text of a numeral. Only the numeral zero begins with the digit zero. -/
inductive WritesNumeral : Numeral → List Char → Prop where
  | mk {negative : Bool} {whole fraction point letter : List Char}
      {exponent : Option (Bool × List Char)} (run : IsDigits whole)
      (leading : whole.head? = some '0' → whole = ['0'])
      (fractional : WritesFraction fraction point) (scaled : WritesExponent exponent letter) :
      WritesNumeral ⟨negative, whole, fraction, exponent⟩
        ((if negative then ['-'] else []) ++ (whole ++ (point ++ letter)))

/-! ## String literals -/

inductive WritesPiece : Piece → List Char → Prop where
  | plain {c : Char} (unquoted : c ≠ '"') (unescaped : c ≠ '\\') (printed : ¬ c.toNat < 0x20) :
      WritesPiece (.char c) [c]
  | letter {letter c : Char} (known : simpleEscape? letter = some c) :
      WritesPiece (.char c) ['\\', letter]
  | unit {a b c d : Char} {n : Nat} (value : unitValue? a b c d = some n) :
      WritesPiece (.unit n) ['\\', 'u', a, b, c, d]

inductive WritesPieces : List Piece → List Char → Prop where
  | nil : WritesPieces [] []
  | cons {p : Piece} {pieces : List Piece} {text more : List Char} (first : WritesPiece p text)
      (others : WritesPieces pieces more) : WritesPieces (p :: pieces) (text ++ more)

inductive WritesString : Lexeme → List Char → Prop where
  | mk {pieces : List Piece} {body : List Char} (inside : WritesPieces pieces body) :
      WritesString ⟨pieces, none⟩ ('"' :: (body ++ ['"']))

/-! ## Values -/

/-- The text between the brackets of a list, given the texts of its entries. -/
inductive WritesList {α : Type} (entry : α → List Char → Prop) : List α → List Char → Prop where
  | none {blanks : List Char} (blank : Blanks blanks) : WritesList entry [] blanks
  | last {x : α} {before text after : List Char} (front : Blanks before) (first : entry x text)
      (back : Blanks after) : WritesList entry [x] (before ++ (text ++ after))
  | more {x y : α} {rest : List α} {before text after others : List Char} (front : Blanks before)
      (first : entry x text) (back : Blanks after) (later : WritesList entry (y :: rest) others) :
      WritesList entry (x :: y :: rest) (before ++ (text ++ (after ++ ',' :: others)))

inductive WritesMember (value : Value → List Char → Prop) : Lexeme × Value → List Char → Prop where
  | mk {key : Lexeme} {v : Value} {literal before after text : List Char}
      (name : WritesString key literal) (front : Blanks before) (back : Blanks after)
      (written : value v text) :
      WritesMember value (key, v) (literal ++ (before ++ ':' :: (after ++ text)))

/-- The text of a value, without blanks around it. -/
inductive Writes : Value → List Char → Prop where
  | null : Writes .null "null".toList
  | bool (b : Bool) : Writes (.bool b) (boolText b)
  | number {n : Numeral} {text : List Char} (numeral : WritesNumeral n text) :
      Writes (.number n) text
  | string {l : Lexeme} {text : List Char} (literal : WritesString l text) :
      Writes (.string l) text
  | array {items : List Value} {inside : List Char} (entries : WritesList Writes items inside) :
      Writes (.array items .closed) ('[' :: (inside ++ [']']))
  | object {members : List (Lexeme × Value)} {inside : List Char}
      (entries : WritesList (WritesMember Writes) members inside) :
      Writes (.object members .closed) ('{' :: (inside ++ ['}']))

/-! ## Lists -/

section Lists

variable {α : Type} {entry : α → List Char → Prop} {xs : List α}

/-- Blanks in front of the entries of a list do not matter. -/
theorem WritesList.padded {blanks inside : List Char} (blank : Blanks blanks)
    (h : WritesList entry xs inside) : WritesList entry xs (blanks ++ inside) := by
  cases h with
  | none other => exact .none (List.forall_mem_append.mpr ⟨blank, other⟩)
  | last front first back =>
      rw [← List.append_assoc]
      exact .last (List.forall_mem_append.mpr ⟨blank, front⟩) first back
  | more front first back later =>
      rw [← List.append_assoc]
      exact .more (List.forall_mem_append.mpr ⟨blank, front⟩) first back later

/-- Entries that are written, with commas between them, are written as a list. -/
theorem writesList_intercalate {texts : List (List Char)} (entries : List.Forall₂ entry xs texts) :
    WritesList entry xs ([','].intercalate texts) := by
  induction entries with
  | nil => exact .none blanks_nil
  | @cons x text xs texts first others ih =>
      cases others with
      | nil =>
          rw [List.intercalate_singleton]
          have last : WritesList entry [x] ([] ++ (text ++ [])) := .last blanks_nil first blanks_nil
          rwa [List.nil_append, List.append_nil] at last
      | cons next later =>
          rw [List.intercalate_cons_cons, List.append_assoc]
          exact .more blanks_nil first blanks_nil ih

/-- A list can be written if and only if each of its entries can be. -/
theorem exists_writesList :
    (∃ text, WritesList entry xs text) ↔ ∀ x ∈ xs, ∃ text, entry x text := by
  induction xs with
  | nil => exact ⟨fun _ => List.forall_mem_nil _, fun _ => ⟨[], .none blanks_nil⟩⟩
  | cons x rest ih =>
      rw [List.forall_mem_cons, ← ih]
      constructor
      · rintro ⟨_, written⟩
        cases written with
        | last front first back => exact ⟨⟨_, first⟩, [], .none blanks_nil⟩
        | more front first back later => exact ⟨⟨_, first⟩, _, later⟩
      · rintro ⟨⟨_, first⟩, _, others⟩
        cases rest with
        | nil => exact ⟨_, .last blanks_nil first blanks_nil⟩
        | cons y rest => exact ⟨_, .more blanks_nil first blanks_nil others⟩

theorem exists_writes_array {items : List Value} :
    (∃ text, Writes (.array items .closed) text) ↔ ∀ v ∈ items, ∃ text, Writes v text := by
  rw [← exists_writesList]
  constructor
  · rintro ⟨_, written⟩
    cases written with
    | array entries => exact ⟨_, entries⟩
  · rintro ⟨_, entries⟩
    exact ⟨_, .array entries⟩

theorem exists_writes_object {members : List (Lexeme × Value)} :
    (∃ text, Writes (.object members .closed) text) ↔
      ∀ m ∈ members, ∃ text, WritesMember Writes m text := by
  rw [← exists_writesList]
  constructor
  · rintro ⟨_, written⟩
    cases written with
    | object entries => exact ⟨_, entries⟩
  · rintro ⟨_, entries⟩
    exact ⟨_, .object entries⟩

end Lists

/-! ## Documents -/

/-- Whether a text is a document of a value: the text of the value between blanks. -/
def IsDocument (v : Value) (text : List Char) : Prop :=
  ∃ before inside after, text = before ++ (inside ++ after) ∧ Blanks before ∧ Blanks after ∧
    Writes v inside

end Viewsmith.Json
