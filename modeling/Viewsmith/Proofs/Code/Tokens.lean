import Mathlib.Data.List.Basic
import Viewsmith.Proofs.Code.Lines
import Viewsmith.Proofs.Code.StyleSets
import Viewsmith.Proofs.Identifier.Characters

/-!
# Tokens stay on their line

Names, numbers, keys and string literals are written into lines of code. None of them can end the
line: identifiers hold identifier characters and spaces, number texts hold number characters, and a
string literal escapes what would end it.
-/

namespace Viewsmith

/-! ## Identifiers and keys -/

/-- A text stays on its line if its characters have a property that line breaks do not have. -/
theorem isOneLine_of_forall {P : Char → Prop} {text : List Char} (h : ∀ c ∈ text, P c)
    (lf : ¬ P '\n') (cr : ¬ P '\r') : IsOneLine text :=
  ⟨fun inside => lf (h _ inside), fun inside => cr (h _ inside)⟩

theorem isOneLine_camelName (label : String) : IsOneLine (camelName label).toList :=
  isOneLine_of_forall (fun _ => isIdentifierChar_of_mem_camelName) (by decide) (by decide)

theorem isOneLine_pascalName (label : String) : IsOneLine (pascalName label).toList :=
  isOneLine_of_forall (fun _ => isIdentifierChar_of_mem_pascalName) (by decide) (by decide)

theorem mem_entryKey {label : String} {number : Nat} {c : Char}
    (h : c ∈ (entryKey label number).toList) : IsIdentifierChar c ∨ c = ' ' := by
  simp only [entryKey, String.toList_append, List.mem_append] at h
  rcases h with (h | h) | h
  · exact isIdentifierChar_of_mem_camelName h
  · rw [List.mem_singleton.mp h]
    decide
  · rw [Nat.toString_eq_repr, Nat.toList_repr] at h
    have digit : c.isDigit = true := Nat.isDigit_of_mem_toDigits (by decide) (by decide) h
    exact Or.inl (Or.inr (Or.inl (by simp [Char.isAlphanum, digit])))

theorem isOneLine_entryKey (label : String) (number : Nat) :
    IsOneLine (entryKey label number).toList :=
  isOneLine_of_forall (fun _ => mem_entryKey) (by decide) (by decide)

theorem exists_cons_entryKey (label : String) (number : Nat) :
    ∃ c rest, (entryKey label number).toList = c :: rest ∧ IsIdentifierChar c := by
  obtain ⟨c, rest, shape, ident⟩ := exists_identifierChar_cons_camelName label
  refine ⟨c, rest ++ "_".toList ++ (toString number).toList, ?_, ident⟩
  simp only [entryKey, String.toList_append, shape, List.cons_append]

/-! ## Numbers and string literals -/

theorem isOneLine_codeText (x : Float) : IsOneLine (Decimal.codeText x).toList :=
  isOneLine_of_forall (fun _ => Decimal.isNumberChar_of_mem_codeText) (by decide) (by decide)

theorem isOneLine_escapeInCode (q : QuoteStyle) (c : Char) : IsOneLine (escapeInCode q.char c) := by
  unfold escapeInCode
  split_ifs with backslash lf cr tab line paragraph quote
  · decide
  · decide
  · decide
  · decide
  · decide
  · decide
  · rw [quote]
    cases q <;> decide
  · exact ⟨by simpa using Ne.symm lf, by simpa using Ne.symm cr⟩

theorem isOneLine_stringLiteral (q : QuoteStyle) (text : List Char) :
    IsOneLine (stringLiteral q text) := by
  have body : IsOneLine (text.flatMap (escapeInCode q.char)) := by
    constructor
    · intro lf
      obtain ⟨c, -, h⟩ := List.mem_flatMap.mp lf
      exact (isOneLine_escapeInCode q c).1 h
    · intro cr
      obtain ⟨c, -, h⟩ := List.mem_flatMap.mp cr
      exact (isOneLine_escapeInCode q c).2 h
  have quote : IsOneLine [q.char] := by cases q <;> decide
  rw [stringLiteral, ← List.singleton_append, List.append_assoc, isOneLine_append, isOneLine_append]
  exact ⟨quote, body, quote⟩

theorem exists_cons_stringLiteral (q : QuoteStyle) (text : List Char) :
    ∃ rest, stringLiteral q text = q.char :: rest :=
  ⟨_, by rw [stringLiteral, List.cons_append]⟩

/-! ## Values and properties -/

def WrittenValue.codeText (q : QuoteStyle) : WrittenValue → List Char
  | .text s => stringLiteral q s.toList
  | .number digits => digits.toList

def propertyText (q : QuoteStyle) (property : String) : List Char :=
  if isPlainKey property then property.toList else stringLiteral q property.toList

theorem CodeBuffer.literal_eq (b : CodeBuffer) (v : Literal) :
    b.literal v = b.writeChars (v.written.codeText b.options.quoteStyle) := by
  cases v <;> rfl

theorem writeKey_eq (b : CodeBuffer) (property : String) :
    writeKey b property = b.writeChars (propertyText b.options.quoteStyle property) := by
  unfold writeKey propertyText
  split <;> rfl

theorem isOneLine_codeText_written (q : QuoteStyle) (v : Literal) :
    IsOneLine (v.written.codeText q) := by
  cases v with
  | text s => exact isOneLine_stringLiteral q s.toList
  | number x => exact isOneLine_codeText x

theorem continuesKey_of_startsKey {c : Char} (h : startsKey c = true) : continuesKey c = true := by
  simp only [startsKey, continuesKey, Char.isAlphanum, Bool.or_eq_true] at h ⊢
  tauto

theorem continuesKey_of_mem {property : String} (plain : isPlainKey property = true) {c : Char}
    (h : c ∈ property.toList) : continuesKey c = true := by
  unfold isPlainKey at plain
  split at plain
  · cases plain
  · rename_i first rest shape
    rw [Bool.and_eq_true, List.all_eq_true] at plain
    rw [shape, List.mem_cons] at h
    rcases h with rfl | h
    · exact continuesKey_of_startsKey plain.1
    · exact plain.2 c h

theorem isOneLine_propertyText (q : QuoteStyle) (property : String) :
    IsOneLine (propertyText q property) := by
  unfold propertyText
  split
  · rename_i plain
    exact isOneLine_of_forall (fun _ => continuesKey_of_mem plain) (by decide) (by decide)
  · exact isOneLine_stringLiteral q property.toList

/-- A property's text begins with a character that is neither a space nor a tab. -/
theorem exists_cons_propertyText (q : QuoteStyle) (property : String) :
    ∃ c rest, propertyText q property = c :: rest ∧ c ≠ ' ' ∧ c ≠ '\t' := by
  unfold propertyText
  split
  · rename_i plain
    unfold isPlainKey at plain
    split at plain
    · cases plain
    · rename_i first rest shape
      rw [Bool.and_eq_true] at plain
      refine ⟨first, rest, shape, ?_, ?_⟩
      · rintro rfl
        exact absurd plain.1 (by decide)
      · rintro rfl
        exact absurd plain.1 (by decide)
  · obtain ⟨rest, shape⟩ := exists_cons_stringLiteral q property.toList
    exact ⟨q.char, rest, shape, by cases q <;> decide, by cases q <;> decide⟩

end Viewsmith
