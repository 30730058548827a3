import Viewsmith.Proofs.Code.Previews
import Viewsmith.Proofs.Reading.Literals

/-!
# Root tags

A preview is mounted on the element that has the root tag for its identifier. The tag stands between
quotes as it is, without escapes. A reader that comes to this literal finds the tag in it exactly if
every character of the tag stands for itself (`mountPoint_of_renderPreview`); a quote closes the
literal early, and the rest of the tag is then read as code (`rootTag_closes_literal`).
-/

namespace Viewsmith

/-! ## Literals without escapes -/

def StandsForItself (quote c : Char) : Prop := c ≠ quote ∧ c ≠ '\\' ∧ c ∉ lineTerminators

instance (quote c : Char) : Decidable (StandsForItself quote c) :=
  inferInstanceAs (Decidable (_ ∧ _ ∧ _))

/-- A text that needs no escapes is read as it is. -/
theorem readLiteralBody_plainText {quote : Char} {text : List Char}
    (plain : ∀ c ∈ text, StandsForItself quote c) (s : List Char) :
    readLiteralBody quote .between (text ++ quote :: s) = some (text, s) := by
  induction text with
  | nil => rw [List.nil_append, readLiteralBody, if_pos rfl]
  | cons c rest ih =>
      rw [List.forall_mem_cons] at plain
      obtain ⟨⟨unquoted, unescaped, within⟩, others⟩ := plain
      rw [List.cons_append, readLiteralBody_plain unquoted unescaped within, ih others]
      rfl

/-- What the first character of a text that is read does: it closes the literal, it is a part of an
escape that goes on, or it completes a character. A line feed does none of these. -/
theorem readLiteralBody_cases {quote c : Char} {place : LiteralPlace} {rest : List Char}
    {r : List Char × List Char} (read : readLiteralBody quote place (c :: rest) = some r) :
    (c = quote ∧ r = ([], rest)) ∨
      c ≠ '\n' ∧ ((∃ later, readLiteralBody quote later rest = some r) ∨
        ∃ meant below, readLiteralBody quote .between rest = some below ∧
          r = (meant :: below.1, below.2)) := by
  cases place with
  | between =>
      rw [readLiteralBody] at read
      split_ifs at read with closes escapes ends
      · exact Or.inl ⟨closes, (Option.some.inj read).symm⟩
      · exact Or.inr ⟨by rw [escapes]; decide, Or.inl ⟨_, read⟩⟩
      · obtain ⟨below, inner, same⟩ := Option.map_eq_some_iff.mp read
        refine Or.inr ⟨?_, Or.inr ⟨c, below, inner, same.symm⟩⟩
        rintro rfl
        exact ends (by decide)
  | escaped =>
      rw [readLiteralBody] at read
      split_ifs at read with unicode
      · exact Or.inr ⟨by rw [unicode]; decide, Or.inl ⟨_, read⟩⟩
      · split at read
        · cases read
        · rename_i meant known
          obtain ⟨below, inner, same⟩ := Option.map_eq_some_iff.mp read
          refine Or.inr ⟨?_, Or.inr ⟨meant, below, inner, same.symm⟩⟩
          rintro rfl
          cases known
  | codePoint missing value =>
      rw [readLiteralBody] at read
      split at read
      · cases read
      · rename_i digit known
        have hexadecimal : c ≠ '\n' := by
          rintro rfl
          cases known
        simp only at read
        split_ifs at read
        · obtain ⟨below, inner, same⟩ := Option.map_eq_some_iff.mp read
          exact Or.inr ⟨hexadecimal, Or.inr ⟨_, below, inner, same.symm⟩⟩
        · exact Or.inr ⟨hexadecimal, Or.inl ⟨_, read⟩⟩

/-- What a literal stands for and what is left after it are together shorter than what was read: the
closing quote belongs to neither of them. -/
theorem length_lt_of_readLiteralBody {quote : Char} {text : List Char} :
    ∀ {place : LiteralPlace} {r : List Char × List Char},
      readLiteralBody quote place text = some r → r.1.length + r.2.length < text.length := by
  induction text with
  | nil =>
      intro place r read
      cases place <;> cases read
  | cons c rest ih =>
      intro place r read
      rcases readLiteralBody_cases read with
        ⟨-, rfl⟩ | ⟨-, ⟨later, inner⟩ | ⟨meant, below, inner, rfl⟩⟩
      · simp
      · have shorter := ih inner
        rw [List.length_cons]
        omega
      · have shorter := ih inner
        simp only [List.length_cons]
        omega

/-- A literal ends before its line does. -/
theorem lineFeed_of_readLiteralBody {quote : Char} (other : quote ≠ '\n') (back : List Char)
    {front : List Char} : ∀ {place : LiteralPlace} {r : List Char × List Char},
      readLiteralBody quote place (front ++ '\n' :: back) = some r →
        ∃ left, r.2 = left ++ '\n' :: back := by
  induction front with
  | nil =>
      intro place r read
      rcases readLiteralBody_cases read with ⟨closes, -⟩ | ⟨absent, -⟩
      · exact absurd closes.symm other
      · exact absurd rfl absent
  | cons c rest ih =>
      intro place r read
      rcases readLiteralBody_cases read with
        ⟨-, rfl⟩ | ⟨-, ⟨later, inner⟩ | ⟨meant, below, inner, rfl⟩⟩
      · exact ⟨rest, rfl⟩
      · exact ih inner
      · obtain ⟨left, same⟩ := ih inner
        exact ⟨left, same⟩

/-- A text that is read as itself, with no more than the closing quote between it and what is left,
needs no escapes. -/
theorem plain_of_readLiteralBody {quote : Char} {tail after : List Char}
    (close : tail.length ≤ after.length + 1) {text : List Char}
    (read : readLiteralBody quote .between (text ++ tail) = some (text, after)) :
    ∀ c ∈ text, StandsForItself quote c := by
  induction text with
  | nil => exact List.forall_mem_nil _
  | cons c rest ih =>
      rw [List.cons_append, readLiteralBody] at read
      split_ifs at read with closes escapes ends
      · cases read
      · have shorter := length_lt_of_readLiteralBody read
        simp only [List.length_cons, List.length_append] at shorter
        omega
      · obtain ⟨below, inner, same⟩ := Option.map_eq_some_iff.mp read
        obtain ⟨rfl, rfl⟩ : below.1 = rest ∧ below.2 = after := by
          rw [Prod.mk.injEq, List.cons.injEq] at same
          exact ⟨same.1.2, same.2⟩
        rw [List.forall_mem_cons]
        exact ⟨⟨closes, escapes, ends⟩, ih inner⟩

/-- Between quotes and before the end of a call a text is read as itself, and the end of the call as
what follows it, exactly if the text needs no escapes. -/
theorem readLiteral_argument_iff (text rest : List Char) :
    (∃ after, readLiteral ('\'' :: (text ++ '\'' :: ')' :: ',' :: '\n' :: rest))
        = some (text, ')' :: ',' :: after)) ↔
      ∀ c ∈ text, StandsForItself '\'' c := by
  have opened (s : List Char) : readLiteral ('\'' :: s) = readLiteralBody '\'' .between s := by
    rw [readLiteral, if_pos (Or.inl rfl)]
  rw [opened]
  constructor
  · rintro ⟨after, read⟩
    have line : text ++ '\'' :: ')' :: ',' :: '\n' :: rest
        = (text ++ ['\'', ')', ',']) ++ '\n' :: rest := by simp
    rw [line] at read
    obtain ⟨left, same⟩ : ∃ left, ')' :: ',' :: after = left ++ '\n' :: rest :=
      lineFeed_of_readLiteralBody (by decide) rest read
    have close : ('\'' :: ')' :: ',' :: '\n' :: rest).length ≤ (')' :: ',' :: after).length + 1 := by
      rcases left with _ | ⟨first, _ | ⟨second, others⟩⟩
      · cases same
      · cases same
      · rw [same]
        simp only [List.length_cons, List.length_append]
        omega
    rw [← line] at read
    exact plain_of_readLiteralBody close read
  · intro plain
    exact ⟨'\n' :: rest, readLiteralBody_plainText plain _⟩

/-! ## Mount points -/

/-- The text of a preview up to the argument of the call that finds the element to mount on. -/
def beforeMountPoint (code component : String) : String :=
  previewOpening ++ code ++ (previewMounting ++ "<") ++ pascalName component
    ++ (" />" ++ previewRunning ++ "document.getElementById(")

def mountPoint (rootTag : String) : String := "'" ++ rootTag ++ "')," ++ previewClosing

theorem renderPreview_eq_mountPoint (code component rootTag : String) :
    renderPreview code component rootTag
      = .ok (beforeMountPoint code component ++ mountPoint rootTag) := by
  have call : "document.getElementById('" = "document.getElementById(" ++ "'" := ofList_split rfl
  rw [renderPreview_eq, beforeMountPoint, mountPoint, call]
  simp only [String.append_assoc]

theorem toList_mountPoint (rootTag : String) : (mountPoint rootTag).toList
    = '\'' :: (rootTag.toList ++ '\'' :: ')' :: ',' :: '\n' :: Template.lineChars (previewLines.drop 17)) := by
  have opening : "'".toList = ['\''] := by decide
  have closing : "'),".toList = ['\'', ')', ','] := by decide
  rw [mountPoint, String.append_assoc, String.toList_append, String.toList_append, toList_closing,
    opening, closing]
  simp only [List.cons_append, List.nil_append]

/-- A preview finds the element to mount on by a literal. Read as one, this is the root tag with the
end of the call after it exactly if the tag has no single quote, no backslash and nothing that ends a
line. -/
theorem mountPoint_of_renderPreview (code component rootTag : String) :
    renderPreview code component rootTag
        = .ok (beforeMountPoint code component ++ mountPoint rootTag) ∧
      ((∃ after, readLiteral (mountPoint rootTag).toList
          = some (rootTag.toList, "),".toList ++ after)) ↔
        ∀ c ∈ rootTag.toList, c ≠ '\'' ∧ c ≠ '\\' ∧ c ∉ lineTerminators) := by
  have call : "),".toList = [')', ','] := by decide
  refine ⟨renderPreview_eq_mountPoint code component rootTag, ?_⟩
  rw [toList_mountPoint, call]
  exact readLiteral_argument_iff rootTag.toList _

/-- A quote in the root tag closes the literal: the preview looks for another element, and the rest of
the tag is read as code. -/
theorem rootTag_closes_literal :
    renderPreview "" "Card" "it's" = .ok (beforeMountPoint "" "Card" ++ mountPoint "it's") ∧
      (∃ after, readLiteral (mountPoint "it's").toList = some ("it".toList, "s'),".toList ++ after)) ∧
      ¬ ∃ after, readLiteral (mountPoint "it's").toList
        = some ("it's".toList, "),".toList ++ after) := by
  have tag : "it's".toList = ['i', 't', '\'', 's'] := by decide
  have read : ∃ after, readLiteral (mountPoint "it's").toList
      = some ("it".toList, "s'),".toList ++ after) := by
    have meant : "it".toList = ['i', 't'] ∧ "s'),".toList = ['s', '\'', ')', ','] := by decide
    rw [toList_mountPoint, tag, meant.1, meant.2]
    exact ⟨_, rfl⟩
  refine ⟨renderPreview_eq_mountPoint "" "Card" "it's", read, ?_⟩
  rintro ⟨after, other⟩
  obtain ⟨left, read⟩ := read
  rw [read, Option.some.injEq, Prod.mk.injEq] at other
  exact absurd other.1 (by decide)

end Viewsmith
