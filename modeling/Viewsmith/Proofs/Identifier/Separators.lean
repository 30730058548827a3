import Mathlib.Data.List.DropRight
import Mathlib.Logic.Relation
import Viewsmith.Proofs.Identifier.Spaces

/-!
# Separators of labels

The words of a label are those of its runs of letters and digits, and what stands between the runs only
separates them: the label is read as if each run of separators were one space, with no white space at the
ends (`spacedLabel_eq`). So separators can be replaced by others, repeated, and added or left out at the
ends, and the identifiers of the label stay the same (`identifiers_of_respaced`).
-/

namespace Viewsmith

open Unicode

/-! ## Runs around separators -/

/-- The runs of a text are those on either side of a separator. -/
theorem wordRuns_append_separator (u : List Char) {c : Char} (separates : isWordChar c = false)
    (v : List Char) : wordRuns (u ++ c :: v) = wordRuns u ++ wordRuns v := by
  have parts : (u ++ c :: v).splitOnP (!isWordChar ·)
      = u.splitOnP (!isWordChar ·) ++ v.splitOnP (!isWordChar ·) :=
    List.splitOnP_append_cons u v (by simp [separates])
  rw [wordRuns, parts, List.filter_append, wordRuns, wordRuns]

theorem wordRuns_separator_cons {c : Char} (separates : isWordChar c = false) (v : List Char) :
    wordRuns (c :: v) = wordRuns v :=
  wordRuns_append_separator [] separates v

theorem wordRuns_separators_append {r : List Char} (separate : ∀ c ∈ r, isWordChar c = false)
    (v : List Char) : wordRuns (r ++ v) = wordRuns v := by
  induction r with
  | nil => rfl
  | cons c r ih =>
      rw [List.forall_mem_cons] at separate
      rw [List.cons_append, wordRuns_separator_cons separate.1, ih separate.2]

/-- However long it is and whatever it is made of, a run of separators does the same. -/
theorem wordRuns_append_separators (u : List Char) {r : List Char} (nonempty : r ≠ [])
    (separate : ∀ c ∈ r, isWordChar c = false) (v : List Char) :
    wordRuns (u ++ r ++ v) = wordRuns u ++ wordRuns v := by
  obtain ⟨c, rest, rfl⟩ := List.exists_cons_of_ne_nil nonempty
  rw [List.forall_mem_cons] at separate
  rw [List.append_assoc, List.cons_append, wordRuns_append_separator u separate.1,
    wordRuns_separators_append separate.2]

/-! ## Labels with single spaces -/

theorem wordRuns_letter (c : Char) (word : isWordChar c = true) : wordRuns [c] = [[c]] := by
  rw [wordRuns, List.splitOnP_cons_eq_if_modifyHead, if_neg (by simp [word]), List.splitOnP_nil]
  rfl

/-- A letter before another is part of its run. -/
theorem wordRuns_letter_letter {c d : Char} (first : isWordChar c = true) (second : isWordChar d = true)
    (rest : List Char) :
    ∃ run more, wordRuns (d :: rest) = run :: more ∧ wordRuns (c :: d :: rest) = (c :: run) :: more := by
  obtain ⟨part, parts, split⟩ :=
    List.exists_cons_of_ne_nil (List.splitOnP_ne_nil (!isWordChar ·) rest)
  refine ⟨d :: part, parts.filter (!·.isEmpty), ?_, ?_⟩
  · rw [wordRuns, List.splitOnP_cons_eq_if_modifyHead, if_neg (by simp [second]), split]
    rfl
  · rw [wordRuns, List.splitOnP_cons_eq_if_modifyHead, if_neg (by simp [first]),
      List.splitOnP_cons_eq_if_modifyHead, if_neg (by simp [second]), split]
    rfl

def startsSeparated (text : List Char) : Bool := text.head?.any (!isWordChar ·)

theorem spacedLabel_separator_cons {c : Char} (separates : isWordChar c = false) (rest : List Char) :
    spacedLabel (c :: rest) = spacedLabel rest := by
  rw [spacedLabel, wordRuns_separator_cons separates, spacedLabel]

theorem spacedLabel_letter_cons {c : Char} (word : isWordChar c = true) (rest : List Char) :
    spacedLabel (c :: rest) =
      c :: if startsSeparated rest = true ∧ spacedLabel rest ≠ [] then ' ' :: spacedLabel rest
        else spacedLabel rest := by
  cases rest with
  | nil =>
      rw [spacedLabel, wordRuns_letter c word]
      rfl
  | cons d rest =>
      cases second : isWordChar d with
      | true =>
          obtain ⟨run, more, inner, outer⟩ := wordRuns_letter_letter word second rest
          have together : startsSeparated (d :: rest) = false := by simp [startsSeparated, second]
          rw [together, if_neg (by simp), spacedLabel, spacedLabel, inner, outer]
          cases more with
          | nil => rw [List.intercalate_singleton, List.intercalate_singleton]
          | cons next more =>
              rw [List.intercalate_cons_cons, List.intercalate_cons_cons]
              rfl
      | false =>
          have apart : startsSeparated (d :: rest) = true := by simp [startsSeparated, second]
          have runs : wordRuns (c :: d :: rest) = [c] :: wordRuns rest := by
            rw [← List.singleton_append, wordRuns_append_separator [c] second, wordRuns_letter c word]
            rfl
          rw [spacedLabel_separator_cons second, apart, spacedLabel, runs, intercalate_cons_wordRuns]
          by_cases none : spacedLabel rest = [] <;> simp [none]

/-- A text with each run of separators replaced by one space. `inside` tells whether the text goes on a
run of separators, which has its space already. -/
def replaceSeparators (inside : Bool) : List Char → List Char
  | [] => []
  | c :: rest =>
      if isWordChar c then c :: replaceSeparators false rest
      else if inside then replaceSeparators true rest
      else ' ' :: replaceSeparators true rest

/-- A text with single spaces is the label with single spaces between its runs, but for a space in front
and spaces at the end. -/
theorem exists_replaceSeparators (text : List Char) : ∃ tail, (∀ c ∈ tail, c = ' ') ∧
    replaceSeparators true text = spacedLabel text ++ tail ∧
    replaceSeparators false text
      = (if startsSeparated text then [' '] else []) ++ spacedLabel text ++ tail := by
  induction text with
  | nil => exact ⟨[], by simp, rfl, rfl⟩
  | cons c rest ih =>
      obtain ⟨tail, spaces, inside, outside⟩ := ih
      cases word : isWordChar c with
      | false =>
          have apart : startsSeparated (c :: rest) = true := by simp [startsSeparated, word]
          refine ⟨tail, spaces, ?_, ?_⟩
          · simp [replaceSeparators, word, inside, spacedLabel_separator_cons word]
          · simp [replaceSeparators, word, inside, spacedLabel_separator_cons word, apart]
      | true =>
          have together : startsSeparated (c :: rest) = false := by simp [startsSeparated, word]
          suffices letters : ∃ tail, (∀ d ∈ tail, d = ' ') ∧
              c :: replaceSeparators false rest = spacedLabel (c :: rest) ++ tail by
            obtain ⟨tail, spaces, letters⟩ := letters
            refine ⟨tail, spaces, ?_, ?_⟩
            · rw [replaceSeparators, if_pos word, letters]
            · rw [replaceSeparators, if_pos word, letters, together]
              rfl
          rw [spacedLabel_letter_cons word, outside]
          cases apart : startsSeparated rest with
          | false => exact ⟨tail, spaces, by simp⟩
          | true =>
              cases none : spacedLabel rest with
              | nil => exact ⟨' ' :: tail, by simpa using spaces, by simp⟩
              | cons d more => exact ⟨tail, spaces, by simp⟩

/-- A label with single spaces ends with a letter or a digit. -/
theorem isWordChar_getLast?_spacedLabel {text : List Char} :
    ∀ c ∈ (spacedLabel text).getLast?, isWordChar c = true := by
  induction text with
  | nil => exact nofun
  | cons c rest ih =>
      cases word : isWordChar c with
      | false =>
          rw [spacedLabel_separator_cons word]
          exact ih
      | true =>
          rw [spacedLabel_letter_cons word]
          cases shape : spacedLabel rest with
          | nil =>
              rw [if_neg (by simp)]
              simpa using word
          | cons d more =>
              have last : (c :: if startsSeparated rest = true ∧ d :: more ≠ [] then ' ' :: d :: more
                  else d :: more).getLast? = (d :: more).getLast? := by
                split
                · rw [List.getLast?_cons_cons, List.getLast?_cons_cons]
                · rw [List.getLast?_cons_cons]
              rw [last, ← shape]
              exact ih

/-! ## White space at the ends -/

section

variable {p : Char → Bool} {before text after : List Char}

theorem dropWhile_append_of_head? (inside : ∀ c ∈ before, p c = true)
    (first : ∀ c ∈ text.head?, p c = false) : (before ++ text).dropWhile p = text := by
  rw [List.dropWhile_append_of_pos inside]
  cases text with
  | nil => rfl
  | cons c rest => rw [List.dropWhile_cons_of_neg (by simp [first c rfl])]

theorem rdropWhile_append_of_getLast? (inside : ∀ c ∈ after, p c = true)
    (last : ∀ c ∈ text.getLast?, p c = false) : (text ++ after).rdropWhile p = text := by
  rw [List.rdropWhile, List.reverse_append, dropWhile_append_of_head?, List.reverse_reverse]
  · simpa using inside
  · simpa using last

/-- A text between others that are dropped is what is left of them. -/
theorem rdropWhile_dropWhile_append (hbefore : ∀ c ∈ before, p c = true)
    (hafter : ∀ c ∈ after, p c = true) (first : ∀ c ∈ text.head?, p c = false)
    (last : ∀ c ∈ text.getLast?, p c = false) :
    ((before ++ text ++ after).dropWhile p).rdropWhile p = text := by
  cases text with
  | nil =>
      have all : ∀ c ∈ before ++ [] ++ after, p c = true := by
        rw [List.append_nil, List.forall_mem_append]
        exact ⟨hbefore, hafter⟩
      rw [List.dropWhile_eq_nil_iff.mpr all, List.rdropWhile_nil]
  | cons c rest =>
      rw [List.append_assoc, dropWhile_append_of_head? hbefore, rdropWhile_append_of_getLast? hafter last]
      exact first

end

/-- The words of a label are looked for in the label with each run of separators replaced by one space
and without white space at the ends. -/
theorem spacedLabel_eq (label : List Char) :
    spacedLabel label
      = ((replaceSeparators false label).dropWhile isWhitespace).rdropWhile isWhitespace := by
  obtain ⟨tail, spaces, -, replaced⟩ := exists_replaceSeparators label
  have white : isWhitespace ' ' = true := by decide
  have plain : ∀ {c : Char}, isWordChar c = true → isWhitespace c = false := fun word =>
    (isTokenChar_of_isWordChar word).2
  rw [replaced, rdropWhile_dropWhile_append]
  · split <;> simp [white]
  · intro c hc
    rw [spaces c hc, white]
  · intro c first
    rcases spacedLabel_eq_nil_or_cons label with none | ⟨d, rest, shape, word⟩
    · rw [none] at first
      cases first
    · rw [shape] at first
      cases first
      exact plain word
  · exact fun c last => plain (isWordChar_getLast?_spacedLabel c last)

/-! ## Identifiers -/

/-- A text that is made of separators only: neither letters nor decimal digits. -/
structure IsSeparating (r : String) : Prop where
  nonempty : r ≠ ""
  separate : ∀ c ∈ r.toList, isLetter c = false ∧ isDecimalDigit c = false

/-- One change to the separators of a label: some are replaced by others, or more are added at an end. -/
inductive Respaces : String → String → Prop where
  | within (u v : String) {r r' : String} (hr : IsSeparating r) (hr' : IsSeparating r') :
      Respaces (u ++ r ++ v) (u ++ r' ++ v)
  | front (u : String) {r : String} (hr : IsSeparating r) : Respaces u (r ++ u)
  | back (u : String) {r : String} (hr : IsSeparating r) : Respaces u (u ++ r)

theorem IsSeparating.isWordChar_eq_false {r : String} (hr : IsSeparating r) :
    ∀ c ∈ r.toList, isWordChar c = false := by
  intro c hc
  obtain ⟨letter, digit⟩ := hr.separate c hc
  rw [isWordChar, letter, digit]
  rfl

theorem IsSeparating.toList_ne_nil {r : String} (hr : IsSeparating r) : r.toList ≠ [] := fun empty =>
  hr.nonempty (String.toList_eq_nil_iff.mp empty)

/-- Changing separators keeps the runs. -/
theorem Respaces.wordRuns_eq {a b : String} (h : Respaces a b) :
    wordRuns a.toList = wordRuns b.toList := by
  cases h with
  | within u v hr hr' =>
      simp only [String.toList_append]
      rw [wordRuns_append_separators _ hr.toList_ne_nil hr.isWordChar_eq_false,
        wordRuns_append_separators _ hr'.toList_ne_nil hr'.isWordChar_eq_false]
  | front u hr =>
      rw [String.toList_append, wordRuns_separators_append hr.isWordChar_eq_false]
  | back u hr =>
      have runs := wordRuns_append_separators a.toList hr.toList_ne_nil hr.isWordChar_eq_false []
      have none : wordRuns [] = [] := rfl
      rw [List.append_nil, none, List.append_nil] at runs
      rw [String.toList_append, runs]

/-- So does any number of changes, one after another, and taking them back. -/
theorem wordRuns_eq_of_respaced {a b : String} (h : Relation.EqvGen Respaces a b) :
    wordRuns a.toList = wordRuns b.toList := by
  induction h with
  | rel a b change => exact change.wordRuns_eq
  | refl a => rfl
  | symm a b _ ih => exact ih.symm
  | trans a b c _ _ first second => exact first.trans second

section

variable {a b : String}

theorem camelName_congr (same : wordRuns a.toList = wordRuns b.toList) : camelName a = camelName b := by
  rw [camelName, labelWords, spacedLabel, same, camelName, labelWords, spacedLabel]

theorem pascalName_congr (same : wordRuns a.toList = wordRuns b.toList) :
    pascalName a = pascalName b := by
  rw [pascalName, labelWords, spacedLabel, same, pascalName, labelWords, spacedLabel]

/-- The setter is made of the label with `set_` in front, which ends in a separator. -/
theorem setterName_congr (same : wordRuns a.toList = wordRuns b.toList) :
    setterName a = setterName b := by
  have underscore : isWordChar '_' = false := by decide
  have front : ∀ label : String, wordRuns ("set_" ++ label).toList
      = wordRuns "set".toList ++ wordRuns label.toList := fun label => by
    rw [String.toList_append]
    exact wordRuns_append_separator "set".toList underscore label.toList
  rw [setterName, setterName]
  apply camelName_congr
  rw [front, front, same]

end

/-- Take a label in which a run of separators stands, in the middle or at an end. With other separators in
the middle the label has the same identifiers, and with none at the ends it has them too, for its words
are those of the label with single spaces between them. So however separators are replaced, repeated, added
and left out, the getter and the setter of a state entry, the name of a component and the keys of a style
table stay the same. -/
theorem identifiers_of_respaced (u v : String) {r r' : String} (hr : IsSeparating r)
    (hr' : IsSeparating r') :
    (∀ name ∈ [camelName, pascalName],
      name (u ++ r ++ v) = name (u ++ r' ++ v) ∧ name (r ++ u) = name u ∧ name (u ++ r) = name u) ∧
      (∀ label : List Char, spacedLabel label
        = ((replaceSeparators false label).dropWhile isWhitespace).rdropWhile isWhitespace) ∧
      ∀ a b, Relation.EqvGen Respaces a b →
        getterName a = getterName b ∧ setterName a = setterName b ∧ pascalName a = pascalName b ∧
          StyleTable.new a = StyleTable.new b := by
  have within := (Respaces.within u v hr hr').wordRuns_eq
  have front := (Respaces.front u hr).wordRuns_eq
  have back := (Respaces.back u hr).wordRuns_eq
  refine ⟨?_, spacedLabel_eq, ?_⟩
  · intro name hname
    simp only [List.mem_cons, List.not_mem_nil, or_false] at hname
    rcases hname with rfl | rfl
    · exact ⟨camelName_congr within, camelName_congr front.symm, camelName_congr back.symm⟩
    · exact ⟨pascalName_congr within, pascalName_congr front.symm, pascalName_congr back.symm⟩
  · intro a b respaced
    have same := wordRuns_eq_of_respaced respaced
    have camel := camelName_congr same
    refine ⟨camel, setterName_congr same, pascalName_congr same, ?_⟩
    rw [StyleTable.new, StyleTable.new, camel]

/-- Dashes and brackets for a blank, and blanks at the ends. -/
theorem identifiers_of_dashed :
    IsSeparating " " ∧ IsSeparating "-(" ∧
      camelName ("tab" ++ " " ++ "bar") = camelName ("tab" ++ "-(" ++ "bar") ∧
      Relation.EqvGen Respaces "tab bar" "-(tab-(bar" ∧
      setterName "tab bar" = setterName "-(tab-(bar" := by
  have blank : IsSeparating " " := ⟨by decide, List.all_iff_forall_prop.mp (by decide +kernel)⟩
  have dashed : IsSeparating "-(" := ⟨by decide, List.all_iff_forall_prop.mp (by decide +kernel)⟩
  have respaced : Relation.EqvGen Respaces "tab bar" "-(tab-(bar" :=
    .trans _ _ _ (.rel _ _ (.within "tab" "bar" blank dashed)) (.rel _ _ (.front "tab-(bar" dashed))
  obtain ⟨names, -, whole⟩ := identifiers_of_respaced "tab" "bar" blank dashed
  obtain ⟨-, setter, -, -⟩ := whole _ _ respaced
  exact ⟨blank, dashed, (names camelName (by simp)).1, respaced, setter⟩

end Viewsmith
