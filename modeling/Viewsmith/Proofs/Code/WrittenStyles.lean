import Mathlib.Data.List.Basic
import Viewsmith.Code.Styles
import Viewsmith.Proofs.Decimal.Characters
import Viewsmith.Proofs.Text.Shown

/-!
# Written declarations

Two numbers with the same text are the same number as far as code is concerned. The signature of
declarations tells exactly how they are written (`signature_eq_iff`): property names and texts are
shown between quotes, and the text of a number holds no punctuation that could end it early.
-/

namespace Viewsmith

/-- A value as it is written: a text, or the digits of a number. -/
inductive WrittenValue : Type where
  | text (value : String)
  | number (digits : String)
deriving DecidableEq, Repr

def Literal.written : Literal → WrittenValue
  | .text s => .text s
  | .number x => .number (Decimal.codeText x)

abbrev WrittenStyles : Type := List (String × WrittenValue)

def written (declarations : List (String × Literal)) : WrittenStyles :=
  declarations.map fun d => (d.1, d.2.written)

@[simp]
theorem written_eq_nil {declarations : List (String × Literal)} :
    written declarations = [] ↔ declarations = [] := by
  simp [written]

def signaturePart (d : String × Literal) : List Char :=
  (Shown.quote d.1).toList ++ '=' :: ((signatureValue d.2).toList ++ [';'])

theorem toList_signature (declarations : List (String × Literal)) :
    (signature declarations).toList = declarations.flatMap signaturePart := by
  rw [signature, String.toList_join, List.flatMap_map]
  apply congrArg List.flatten
  apply List.map_congr_left
  intro d _
  simp [signaturePart]

theorem exists_cons_quote (s : String) : ∃ rest, (Shown.quote s).toList = '"' :: rest := by
  exact ⟨_, by rw [Shown.quote, String.toList_ofList]; rfl⟩

theorem semicolon_notMem_codeText (x : Float) : ';' ∉ (Decimal.codeText x).toList := by
  intro h
  exact absurd (Decimal.isNumberChar_of_mem_codeText h) (by decide)

/-- A shown text cannot be taken for the text of a number, which has no quotes. -/
theorem quote_append_ne_codeText_append {s : String} {x : Float} {t u : List Char} :
    (Shown.quote s).toList ++ t ≠ (Decimal.codeText x).toList ++ ';' :: u := by
  intro same
  obtain ⟨rest, hs⟩ := exists_cons_quote s
  cases digits : (Decimal.codeText x).toList with
  | nil =>
      rw [hs, digits, List.cons_append, List.nil_append, List.cons.injEq] at same
      exact absurd same.1 (by decide)
  | cons c more =>
      rw [hs, digits, List.cons_append, List.cons_append, List.cons.injEq] at same
      have number : Decimal.IsNumberChar '"' :=
        Decimal.isNumberChar_of_mem_codeText (by rw [digits, same.1]; exact List.mem_cons_self)
      exact absurd number (by decide)

theorem selfDelimiting_signatureValue :
    SelfDelimiting (fun v => (signatureValue v).toList ++ [';']) Literal.written := by
  intro a b s t same
  simp only [List.append_assoc, List.cons_append, List.nil_append] at same
  cases a with
  | number x =>
      cases b with
      | number y =>
          -- Digits end at the first semicolon, for they hold none.
          obtain ⟨digits, rest⟩ :=
            append_mark_inj (semicolon_notMem_codeText x) (semicolon_notMem_codeText y) same
          exact ⟨congrArg WrittenValue.number (String.toList_inj.mp digits), rest⟩
      | text b => exact absurd same.symm quote_append_ne_codeText_append
  | text a =>
      cases b with
      | number y => exact absurd same quote_append_ne_codeText_append
      | text b =>
          obtain ⟨texts, rest⟩ := Shown.selfDelimiting_quote same
          exact ⟨congrArg WrittenValue.text texts, (List.cons.inj rest).2⟩

theorem selfDelimiting_signaturePart :
    SelfDelimiting signaturePart fun d : String × Literal => (d.1, d.2.written) := by
  intro a b s t same
  simp only [signaturePart, List.append_assoc, List.cons_append] at same
  obtain ⟨property, further⟩ := Shown.selfDelimiting_quote same
  obtain ⟨value, rest⟩ :=
    selfDelimiting_signatureValue (s := s) (t := t) (by simpa using (List.cons.inj further).2)
  exact ⟨Prod.ext property value, rest⟩

def WrittenValue.shown : WrittenValue → String
  | .text s => Shown.quote s
  | .number digits => digits

theorem signatureValue_eq_shown (v : Literal) : signatureValue v = v.written.shown := by
  cases v <;> rfl

theorem signature_eq_of_written_eq {a b : List (String × Literal)} (same : written a = written b) :
    signature a = signature b := by
  have parts (ds : List (String × Literal)) :
      ds.map (fun d => Shown.quote d.1 ++ "=" ++ signatureValue d.2 ++ ";") =
        (written ds).map fun d => Shown.quote d.1 ++ "=" ++ d.2.shown ++ ";" := by
    simp [written, Function.comp_def, signatureValue_eq_shown]
  rw [signature, signature, parts, parts, same]

/-- Declarations have the same signature exactly if they are written the same way. -/
theorem signature_eq_iff {a b : List (String × Literal)} :
    signature a = signature b ↔ written a = written b := by
  constructor
  · intro same
    apply selfDelimiting_signaturePart.map_eq_of_flatMap_eq
    · intro d
      simp [signaturePart]
    · rw [← toList_signature, ← toList_signature, same]
  · exact signature_eq_of_written_eq

end Viewsmith
