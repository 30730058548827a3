import Viewsmith.Proofs.Identifier.Setters

/-!
# Setters of plain labels

For a label without a letter that joins the character before it the words of the setter's label are
`set` and the words of the label itself, however these are divided, and the setter is `set` and the
Pascal form of the label as it stands: neither a number in front nor a reserved word can come of that.
All labels in ASCII are of this kind (`setterName_of_ascii`).
-/

namespace Viewsmith

open Unicode

/-! ## Letters and digits of a label -/

theorem flatten_splitOnP {α : Type} (p : α → Bool) (text : List α) :
    (text.splitOnP p).flatten = text.filter (!p ·) := by
  induction text with
  | nil => rfl
  | cons c rest ih =>
      rw [List.splitOnP_cons_eq_if_modifyHead, List.filter_cons]
      obtain ⟨first, more, further⟩ := List.exists_cons_of_ne_nil (List.splitOnP_ne_nil p rest)
      rw [further, List.flatten_cons] at ih
      cases p c with
      | true => simp [further, ih]
      | false => simp [further, ih]

theorem filter_intercalate {α : Type} {p : α → Bool} {separator : α} (dropped : p separator = false) :
    ∀ parts : List (List α), ([separator].intercalate parts).filter p = parts.flatten.filter p
  | [] => rfl
  | [part] => by rw [List.intercalate_singleton, List.flatten_singleton]
  | first :: second :: rest => by
      rw [List.intercalate_cons_cons, List.filter_append, List.filter_append,
        filter_intercalate dropped (second :: rest), List.flatten_cons, List.filter_append]
      simp [dropped]

/-- The letters and digits of a label are those of its runs, in their order. -/
theorem filter_spacedLabel (label : List Char) :
    (spacedLabel label).filter isWordChar = label.filter isWordChar := by
  rw [spacedLabel, filter_intercalate isWordChar_space, wordRuns, List.flatten_filter_not_isEmpty,
    flatten_splitOnP, List.filter_filter]
  simp

theorem mem_spacedLabel_iff {label : List Char} {c : Char} (word : isWordChar c = true) :
    c ∈ spacedLabel label ↔ c ∈ label := by
  have kept : c ∈ (spacedLabel label).filter isWordChar ↔ c ∈ label.filter isWordChar := by
    rw [filter_spacedLabel]
  simpa [List.mem_filter, word] using kept

/-- The Pascal form of a label is empty exactly if the label has no letters and no digits. -/
theorem pascalWords_eq_nil_iff (label : List Char) :
    pascalWords (labelWords label) = [] ↔ ∀ c ∈ label, isWordChar c = false := by
  rcases spacedLabel_eq_nil_or_cons label with none | ⟨c, rest, shape, word⟩
  · have empty : labelWords label = [] := by
      rw [labelWords, none]
      rfl
    refine iff_of_true (by rw [empty]; rfl) fun c hc => ?_
    rw [Bool.eq_false_iff]
    intro word
    have inside := (mem_spacedLabel_iff word).mpr hc
    rw [none] at inside
    cases inside
  · have other : c ≠ ' ' := by
      rintro rfl
      simp [isWordChar_space] at word
    obtain ⟨tail, words, own⟩ := labelWords_of_cons shape other
    refine iff_of_false ?_ fun free => ?_
    · rw [own]
      simp [pascalWords, capitalize, upperChar_ne_nil]
    · have inside : c ∈ label := (mem_spacedLabel_iff word).mp (shape ▸ List.mem_cons_self)
      rw [free c inside] at word
      cases word

/-! ## Setters -/

/-- What begins with `set` is neither a number nor a reserved word. -/
theorem bindable_set (rest : List Char) :
    bindable ("set".toList ++ rest) = String.ofList ("set".toList ++ rest) := by
  have numeric : isNumeric 's' = false := by decide
  have free : ∀ word ∈ reservedWords, ¬ "set".toList <+: word.toList := by decide +kernel
  have other : ¬ reservedWords.contains (String.ofList ("set".toList ++ rest)) = true := by
    rw [List.contains_iff_mem]
    intro reserved
    exact free _ reserved ⟨rest, String.toList_ofList.symm⟩
  have name : bindable ("set".toList ++ rest)
      = if reservedWords.contains (String.ofList ("set".toList ++ rest)) = true
        then String.ofList ("set".toList ++ rest) ++ "_" else String.ofList ("set".toList ++ rest) := by
    show (let name := String.ofList (if isNumeric 's' = true then _ else _)
      if reservedWords.contains name = true then name ++ "_" else name) = _
    rw [numeric]
    rfl
  rw [name, if_neg other]

/-- The setter of a label that does not begin with a letter that joins is `set` and the Pascal form. -/
theorem setterName_of_apart {state : String}
    (apart : startsJoining (spacedLabel state.toList) = false) :
    setterName state = "set" ++ String.ofList (pascalWords (labelWords state.toList)) := by
  have small : lower "set".toList = "set".toList := by decide +kernel
  rw [setterName, camelName, String.toList_append, labelWords_set apart, camelWords, small,
    bindable_set, String.ofList_append, String.ofList_toList]

/-! ## ASCII -/

theorem isWordChar_of_ascii {c : Char} (ascii : c.toNat < 0x80) : isWordChar c = c.isAlphanum := by
  have table : ∀ n < 0x80, isWordChar (Char.ofNat n) = (Char.ofNat n).isAlphanum := by
    decide +kernel
  have here := table c.toNat ascii
  rwa [Char.ofNat_toNat] at here

/-- No letter in ASCII joins the character before it. -/
theorem startsJoining_of_ascii {label : List Char} (ascii : ∀ c ∈ label, c.toNat < 0x80) :
    startsJoining (spacedLabel label) = false := by
  have high : ∀ c ∈ joiningLetters, ¬ c.toNat < 0x80 := List.all_iff_forall_prop.mp (by decide)
  rcases spacedLabel_eq_nil_or_cons label with none | ⟨c, rest, shape, word⟩
  · rw [none]
    rfl
  · rw [shape, startsJoining_cons, beq_eq_false_iff_ne]
    intro joining
    have inside : c ∈ label := (mem_spacedLabel_iff word).mp (shape ▸ List.mem_cons_self)
    exact high c (mem_joiningLetters joining) (ascii c inside)

/-- The setter of a state entry that is named in ASCII is `set` and the Pascal form of its name: `set`
becomes a word of its own and the words of the name are divided as they are without it. The Pascal form
is the Pascal-case identifier without the underscores that make it a name, and it is empty exactly if the
name has no letters and no digits. -/
theorem setterName_of_ascii (state : String) (ascii : ∀ c ∈ state.toList, c.toNat < 0x80) :
    labelWords ("set_" ++ state).toList = "set".toList :: labelWords state.toList ∧
      camelName ("set_" ++ state) = "set" ++ String.ofList (pascalWords (labelWords state.toList)) ∧
      (pascalName state).toList.filter (· ≠ '_') = pascalWords (labelWords state.toList) ∧
      (pascalWords (labelWords state.toList) = [] ↔ ∀ c ∈ state.toList, c.isAlphanum = false) := by
  have apart := startsJoining_of_ascii ascii
  refine ⟨?_, setterName_of_apart apart, filter_bindable (underscore_notMem_pascalWords _), ?_⟩
  · rw [String.toList_append]
    exact labelWords_set apart
  · rw [pascalWords_eq_nil_iff]
    refine forall₂_congr fun c hc => ?_
    rw [isWordChar_of_ascii (ascii c hc)]

/-- Acronyms, digits and punctuation at the start are divided as in the name itself. -/
theorem setterName_of_acronym :
    (∀ c ∈ "--XMLHttp2fa Count!".toList, c.toNat < 0x80) ∧
      labelWords "--XMLHttp2fa Count!".toList
        = ["XML".toList, "Http".toList, "2".toList, "fa".toList, "Count".toList] ∧
      camelName ("set_" ++ "--XMLHttp2fa Count!") = "setXmlHttp2FaCount" := by
  have ascii : ∀ c ∈ "--XMLHttp2fa Count!".toList, c.toNat < 0x80 :=
    List.all_iff_forall_prop.mp (by decide)
  have words : labelWords "--XMLHttp2fa Count!".toList
      = ["XML".toList, "Http".toList, "2".toList, "fa".toList, "Count".toList] := by
    decide +kernel
  obtain ⟨-, setter, -, -⟩ := setterName_of_ascii "--XMLHttp2fa Count!" ascii
  have joined : "set" ++ String.ofList (pascalWords
      ["XML".toList, "Http".toList, "2".toList, "fa".toList, "Count".toList])
        = "setXmlHttp2FaCount" := by
    decide +kernel
  refine ⟨ascii, words, ?_⟩
  rw [setter, words, joined]

end Viewsmith
