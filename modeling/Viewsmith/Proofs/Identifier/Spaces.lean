import Mathlib.Data.Bool.AllAny
import Mathlib.Data.List.Basic
import Viewsmith.Code.StateHooks
import Viewsmith.Proofs.Code.StyleSets
import Viewsmith.Proofs.Identifier.Characters

/-!
# Spaces in identifiers

An identifier is one token: it is not empty, does not begin with a number, and holds no white space
and no ASCII punctuation but underscores. The only thing that can go wrong is that a letter fuses
with the space beside it, for then the words of the label are not divided there and the space stays.
Whether this happens can be seen in the runs of letters and digits of the label (`keepsSpace`), and
a name made of a label is a token exactly if it does not (`identifiers_of_label`).
-/

namespace Viewsmith

open Unicode

/-! ## Tokens -/

/-- A character that belongs to an identifier token wherever it stands but at the start. -/
def IsTokenChar (c : Char) : Prop := IsIdentifierChar c ∧ isWhitespace c = false

instance (c : Char) : Decidable (IsTokenChar c) :=
  inferInstanceAs (Decidable (_ ∧ _))

def IsIdentifierToken (text : List Char) : Prop :=
  (∀ c ∈ text, IsTokenChar c) ∧ text.head?.any (fun c => !isNumeric c) = true

instance (text : List Char) : Decidable (IsIdentifierToken text) :=
  decidable_of_iff
    ((text.all fun c => decide (IsTokenChar c)) = true ∧
      text.head?.any (fun c => !isNumeric c) = true)
    (and_congr_left' List.all_iff_forall_prop)

theorem not_isTokenChar_space : ¬ IsTokenChar ' ' := by decide

/-! ## Runs that a space sticks to -/

/-- Whether the space between two runs stays with a letter beside it: the last letter of the first
run stays with whatever follows, or the first letter of the second with whatever precedes. -/
def sticksBetween (a b : List Char) : Bool :=
  a.getLast?.any (fun c => clusterClass c == .prefixed)
    || b.head?.any (fun c => clusterClass c == .joining)

def keepsSpace : List (List Char) → Bool
  | a :: b :: rest => sticksBetween a b || keepsSpace (b :: rest)
  | _ => false

/-- Whether two neighbours in a text stay together, one of which is a space. -/
def joinsSpace : List Char → Bool
  | a :: b :: rest => (joins a b && (a == ' ' || b == ' ')) || joinsSpace (b :: rest)
  | _ => false

theorem joins_space_left (c : Char) : joins ' ' c = (clusterClass c == .joining) := by
  have space : clusterClass ' ' = .other := by decide
  unfold joins
  rw [space]
  cases clusterClass c <;> rfl

theorem joins_space_right (c : Char) : joins c ' ' = (clusterClass c == .prefixed) := by
  have space : clusterClass ' ' = .other := by decide
  unfold joins
  rw [space]
  cases clusterClass c <;> rfl

/-- Without a space there is none to stay. -/
theorem joinsSpace_of_notMem : ∀ {text : List Char}, ' ' ∉ text → joinsSpace text = false
  | [], _ => rfl
  | [_], _ => rfl
  | a :: b :: rest, h => by
      rw [List.mem_cons, List.mem_cons, not_or, not_or] at h
      have ha : (a == ' ') = false := by simpa using Ne.symm h.1
      have hb : (b == ' ') = false := by simpa using Ne.symm h.2.1
      rw [joinsSpace, ha, hb, joinsSpace_of_notMem (by simpa using h.2)]
      simp

/-- The first space of a text, between a run and what comes after. -/
theorem joinsSpace_append : ∀ {a t : List Char}, ' ' ∉ a → a ≠ [] →
    joinsSpace (a ++ ' ' :: t) = (sticksBetween a t || joinsSpace t)
  | [], _, _, nonempty => absurd rfl nonempty
  | [c], t, h, _ => by
      have hc : joins c ' ' = (clusterClass c == .prefixed) := joins_space_right c
      cases t with
      | nil => simp [joinsSpace, sticksBetween, hc]
      | cons d rest =>
          simp [joinsSpace, sticksBetween, hc, joins_space_left, Bool.or_assoc]
  | c :: d :: rest, t, h, _ => by
      rw [List.mem_cons, List.mem_cons, not_or, not_or] at h
      have hc : (c == ' ') = false := by simpa using Ne.symm h.1
      have hd : (d == ' ') = false := by simpa using Ne.symm h.2.1
      have more := joinsSpace_append (a := d :: rest) (t := t) (by simpa using h.2) (by simp)
      rw [List.cons_append] at more
      rw [List.cons_append, List.cons_append, joinsSpace, hc, hd, more]
      simp [sticksBetween]

theorem sticksBetween_append {a b : List Char} (nonempty : b ≠ []) (t : List Char) :
    sticksBetween a (b ++ t) = sticksBetween a b := by
  rw [sticksBetween, List.head?_append_of_ne_nil _ nonempty, sticksBetween]

theorem intercalate_eq_append (b : List Char) (rest : List (List Char)) :
    ∃ t, [' '].intercalate (b :: rest) = b ++ t := by
  cases rest with
  | nil => exact ⟨[], by simp [List.intercalate_singleton]⟩
  | cons c more => exact ⟨[' '] ++ [' '].intercalate (c :: more), by
      rw [List.intercalate_cons_cons, List.append_assoc]⟩

/-- A run before those of a label is set off by a space, if the label has any. -/
theorem intercalate_cons_wordRuns (run label : List Char) :
    [' '].intercalate (run :: wordRuns label)
      = run ++ if spacedLabel label = [] then [] else ' ' :: spacedLabel label := by
  rw [spacedLabel]
  cases runs : wordRuns label with
  | nil => simp [List.intercalate_nil, List.intercalate_singleton]
  | cons first more =>
      have nonempty : first ≠ [] := ne_nil_of_mem_wordRuns (runs ▸ List.mem_cons_self)
      obtain ⟨t, shape⟩ := intercalate_eq_append first more
      rw [List.intercalate_cons_cons, if_neg (by simp [shape, nonempty])]
      simp

theorem joinsSpace_intercalate : ∀ {runs : List (List Char)},
    (∀ run ∈ runs, ' ' ∉ run ∧ run ≠ []) →
      joinsSpace ([' '].intercalate runs) = keepsSpace runs
  | [], _ => by simp [List.intercalate_nil, joinsSpace, keepsSpace]
  | [run], h => by
      rw [List.intercalate_singleton, joinsSpace_of_notMem (h run List.mem_cons_self).1]
      rfl
  | a :: b :: rest, h => by
      rw [List.forall_mem_cons] at h
      obtain ⟨⟨plain, nonempty⟩, others⟩ := h
      have further := joinsSpace_intercalate others
      obtain ⟨t, shape⟩ := intercalate_eq_append b rest
      have bounded := (others b List.mem_cons_self).2
      rw [List.intercalate_cons_cons, List.append_assoc, List.singleton_append,
        joinsSpace_append plain nonempty, further, shape, sticksBetween_append bounded, keepsSpace]

/-- A label keeps a space exactly if one between its runs stays. -/
theorem joinsSpace_spacedLabel (label : List Char) :
    joinsSpace (spacedLabel label) = keepsSpace (wordRuns label) := by
  apply joinsSpace_intercalate
  intro run hrun
  constructor
  · intro space
    exact absurd (isWordChar_of_mem_wordRuns hrun space) (by simp [isWordChar_space])
  · exact ne_nil_of_mem_wordRuns hrun

/-! ## Words that hold a space -/

/-- Clusters in which a space stays with a neighbour. -/
theorem space_mem_clusters : ∀ text : List Char,
    (∃ cluster ∈ clusters text, ' ' ∈ cluster ∧ cluster ≠ [' ']) ↔ joinsSpace text = true
  | [] => by simp [clusters, joinsSpace]
  | [c] => by
      have single : clusters [c] = [[c]] := rfl
      have alone : joinsSpace [c] = false := rfl
      rw [single, alone]
      simp only [List.mem_singleton, exists_eq_left, Bool.false_eq_true, iff_false]
      rintro ⟨rfl, other⟩
      exact other rfl
  | a :: b :: rest => by
      have ih := space_mem_clusters (b :: rest)
      obtain ⟨cluster, more, shape⟩ := clusters_cons b rest
      have pushed : clusters (a :: b :: rest) = pushCluster a ((b :: cluster) :: more) := by
        rw [← shape]
        rfl
      rw [joinsSpace, Bool.or_eq_true, ← ih, pushed, shape, pushCluster]
      cases together : joins a b with
      | false =>
          simp only [Bool.false_eq_true, if_false, List.exists_mem_cons_iff, List.mem_singleton,
            Bool.false_and, false_or]
          constructor
          · rintro (⟨rfl, other⟩ | h)
            · exact absurd rfl other
            · exact h
          · exact Or.inr
      | true =>
          simp only [if_true, List.exists_mem_cons_iff, Bool.true_and, Bool.or_eq_true, beq_iff_eq]
          constructor
          · rintro (⟨space, -⟩ | h)
            · rcases List.mem_cons.mp space with rfl | space
              · exact Or.inl (Or.inl rfl)
              · rcases List.mem_cons.mp space with rfl | inside
                · exact Or.inl (Or.inr rfl)
                · refine Or.inr (Or.inl ⟨space, ?_⟩)
                  rintro same
                  rw [(List.cons.inj same).2] at inside
                  cases inside
            · exact Or.inr (Or.inr h)
          · rintro ((rfl | rfl) | ⟨space, -⟩ | h)
            · exact Or.inl ⟨List.mem_cons_self, by simp⟩
            · exact Or.inl ⟨List.mem_cons_of_mem _ List.mem_cons_self, by simp⟩
            · exact Or.inl ⟨List.mem_cons_of_mem _ space, by simp⟩
            · exact Or.inr h

/-- Words lose nothing of the clusters but the spaces that stand alone. -/
theorem flatten_splitClusters (row : List (List Char)) :
    (splitClusters row).flatten = (row.filter (· ≠ [' '])).flatten := by
  induction row with
  | nil => rfl
  | cons cluster rest ih =>
      rw [splitClusters]
      by_cases space : cluster = [' ']
      · simp [space, ih]
      · rw [if_neg space, List.filter_cons_of_pos (by simpa using space), List.flatten_cons, ← ih]
        split
        · rfl
        · obtain ⟨first, others, shape⟩ :=
            List.exists_cons_of_ne_nil (splitClusters_ne_nil rest)
          simp [shape]

theorem space_mem_labelWords (label : List Char) :
    ' ' ∈ (labelWords label).flatten ↔ keepsSpace (wordRuns label) = true := by
  rw [labelWords, List.flatten_filter_not_isEmpty, flatten_splitClusters, List.mem_flatten,
    ← joinsSpace_spacedLabel, ← space_mem_clusters]
  constructor
  · rintro ⟨cluster, kept, space⟩
    obtain ⟨hc, other⟩ := List.mem_filter.mp kept
    exact ⟨cluster, hc, space, by simpa using other⟩
  · rintro ⟨cluster, hc, space, other⟩
    exact ⟨cluster, List.mem_filter.mpr ⟨hc, by simpa using other⟩, space⟩

/-! ## Case keeps spaces, and makes none -/

theorem space_mem_lowerAfter {text : List Char} (h : ' ' ∈ text) :
    ∀ before : List Char, ' ' ∈ lowerAfter before text := by
  induction text with
  | nil => cases h
  | cons c rest ih =>
      intro before
      rw [lowerAfter, List.mem_append]
      rcases List.mem_cons.mp h with rfl | h
      · have image : lowerChar ' ' = [' '] := by decide
        rw [if_neg (by decide), image]
        exact Or.inl List.mem_cons_self
      · exact Or.inr (ih h _)

theorem space_mem_capitalize {word : List Char} (h : ' ' ∈ word) : ' ' ∈ capitalize word := by
  cases word with
  | nil => cases h
  | cons c rest =>
      rw [capitalize, List.mem_append]
      rcases List.mem_cons.mp h with rfl | h
      · exact Or.inl (by decide)
      · exact Or.inr (space_mem_lowerAfter h [])

theorem space_mem_pascalWords {words : List (List Char)} (h : ' ' ∈ words.flatten) :
    ' ' ∈ pascalWords words := by
  obtain ⟨word, hw, inside⟩ := List.mem_flatten.mp h
  exact List.mem_flatMap.mpr ⟨word, hw, space_mem_capitalize inside⟩

theorem space_mem_camelWords {words : List (List Char)} (h : ' ' ∈ words.flatten) :
    ' ' ∈ camelWords words := by
  cases words with
  | nil => cases h
  | cons word rest =>
      rw [camelWords, List.mem_append]
      rw [List.flatten_cons, List.mem_append] at h
      rcases h with h | h
      · exact Or.inl (space_mem_lowerAfter h [])
      · exact Or.inr (space_mem_pascalWords h)

def isClearRange (first last : Nat) : Bool :=
  whitespaceRanges.all fun w => last < w.1 || w.2 < first

theorem isWhitespace_of_isClearRange {first last n : Nat} (clear : isClearRange first last = true)
    (above : first ≤ n) (below : n ≤ last) : isWhitespace (Char.ofNat n) = false := by
  rw [Bool.eq_false_iff]
  intro white
  obtain ⟨w, hw, low, high⟩ := exists_range_of_inRanges white
  have apart := List.all_eq_true.mp clear w hw
  simp only [Bool.or_eq_true, decide_eq_true_eq] at apart
  have positive : ∀ w ∈ whitespaceRanges, 0 < w.1 := by decide
  have begins := positive w hw
  by_cases valid : n.isValidChar
  · rw [toNat_ofNat_of_valid valid] at low high
    omega
  · rw [Char.ofNat, dif_neg valid] at low
    simp at low
    omega

theorem isClearRange_of_mem_wordRanges : ∀ r ∈ letterRanges ++ decimalDigitRanges,
    isClearRange r.1 r.2 = true := by
  decide +kernel

theorem isClearRange_of_mem_caseRuns : ∀ r ∈ lowerRuns ++ upperRuns,
    isClearRange r.target (r.target + (r.last - r.first)) = true := by
  decide +kernel

theorem isWhitespace_of_mem_upperExpansions : ∀ e ∈ upperExpansions, ∀ n ∈ e.2,
    isWhitespace (Char.ofNat n) = false := by
  decide +kernel

theorem keptByCase_isTokenChar : KeptByCase IsTokenChar :=
  keptByCase_of_images
    (fun r hr _ above below =>
      ⟨isIdentifierChar_of_range (identifierRange_of_mem_caseRuns r hr) above below,
        isWhitespace_of_isClearRange (isClearRange_of_mem_caseRuns r hr) above below⟩)
    (fun e he n hn => ⟨isIdentifierChar_of_mem_upperExpansions e he n hn,
      isWhitespace_of_mem_upperExpansions e he n hn⟩)
    (by decide) (by decide)

theorem isTokenChar_of_isWordChar {c : Char} (h : isWordChar c = true) : IsTokenChar c := by
  refine ⟨isIdentifierChar_of_isWordChar h, ?_⟩
  obtain ⟨r, hr, above, below⟩ := exists_range_of_isWordChar h
  have clear := isWhitespace_of_isClearRange (isClearRange_of_mem_wordRanges r hr) above below
  rwa [Char.ofNat_toNat] at clear

theorem isTokenChar_of_isDigit {c : Char} (digit : c.isDigit = true) : IsTokenChar c := by
  have digits : ∀ n < 58, 48 ≤ n → IsTokenChar (Char.ofNat n) := by decide
  have code := digits c.toNat
  simp only [Char.isDigit, Bool.and_eq_true, decide_eq_true_eq] at digit
  have low : 48 ≤ c.toNat := digit.1
  have high : c.toNat ≤ 57 := digit.2
  rw [Char.ofNat_toNat] at code
  exact code (by omega) low

/-! ## Names of labels -/

/-- What a name that is made by joining the words of a label can be: its first character is no
number, all others belong to tokens, and a space is left exactly if one stays between the runs. -/
structure NameOf (label : String) (name : String) : Prop where
  start : name.toList.head?.any (fun c => !isNumeric c) = true
  chars : ∀ c ∈ name.toList, IsTokenChar c ∨ c = ' '
  space : ' ' ∈ name.toList ↔ keepsSpace (wordRuns label.toList) = true

theorem head?_bindable (name : List Char) :
    (bindable name).toList.head?.any (fun c => !isNumeric c) = true := by
  have underscore : isNumeric '_' = false := by decide
  cases name with
  | nil =>
      have empty : (bindable []).toList = ['_'] := rfl
      rw [empty]
      simp [underscore]
  | cons c rest =>
      simp only [bindable]
      by_cases numeric : isNumeric c = true
      · rw [if_pos numeric]
        split
        · simp [underscore]
        · simp [underscore]
      · rw [if_neg numeric]
        split
        · simp [numeric]
        · simp [numeric]

theorem mem_bindable {name : List Char} {c : Char} (other : c ≠ '_') :
    c ∈ (bindable name).toList ↔ c ∈ name := by
  obtain ⟨front, back, same, hfront, hback, -⟩ := bindable_eq name
  rw [same, List.mem_append, List.mem_append]
  constructor
  · rintro ((h | h) | h)
    · exact absurd (hfront c h) other
    · exact h
    · exact absurd (hback c h) other
  · exact fun h => Or.inl (Or.inr h)

/-- Words joined in a way that keeps the characters of tokens, and spaces, make such a name. -/
theorem nameOf_bindable {label : String} {joined : List Char}
    (tokens : (∀ w ∈ labelWords label.toList, ∀ c ∈ w, IsTokenChar c) →
      ∀ c ∈ joined, IsTokenChar c)
    (chars : ∀ c ∈ joined, IsTokenChar c ∨ c = ' ')
    (space : ' ' ∈ (labelWords label.toList).flatten → ' ' ∈ joined) :
    NameOf label (bindable joined) where
  start := head?_bindable joined
  chars := by
    apply forall_mem_bindable (P := fun c => IsTokenChar c ∨ c = ' ')
    · exact Or.inl (by decide)
    · exact chars
  space := by
    rw [mem_bindable (by decide), ← space_mem_labelWords]
    constructor
    · intro inside
      by_contra absent
      have words : ∀ w ∈ labelWords label.toList, ∀ c ∈ w, IsTokenChar c := by
        intro w hw c hc
        rcases mem_labelWords hw hc with word | rfl
        · exact isTokenChar_of_isWordChar word
        · exact absurd (List.mem_flatten.mpr ⟨w, hw, hc⟩) absent
      exact not_isTokenChar_space (tokens words ' ' inside)
    · exact space

theorem forall_mem_labelWords (label : List Char) :
    ∀ w ∈ labelWords label, ∀ c ∈ w, IsTokenChar c ∨ c = ' ' := by
  intro w hw c hc
  rcases mem_labelWords hw hc with word | space
  · exact Or.inl (isTokenChar_of_isWordChar word)
  · exact Or.inr space

theorem nameOf_camelName (label : String) : NameOf label (camelName label) :=
  nameOf_bindable (fun words => keptByCase_isTokenChar.forall_mem_camelWords words)
    (keptByCase_isTokenChar.or_space.forall_mem_camelWords (forall_mem_labelWords _))
    space_mem_camelWords

theorem nameOf_pascalName (label : String) : NameOf label (pascalName label) :=
  nameOf_bindable (fun words => keptByCase_isTokenChar.forall_mem_pascalWords words)
    (keptByCase_isTokenChar.or_space.forall_mem_pascalWords (forall_mem_labelWords _))
    space_mem_pascalWords

namespace NameOf

variable {label name : String}

theorem isIdentifierToken_iff (h : NameOf label name) :
    IsIdentifierToken name.toList ↔ keepsSpace (wordRuns label.toList) = false := by
  rw [← Bool.not_eq_true, ← h.space]
  constructor
  · rintro ⟨chars, -⟩ space
    exact not_isTokenChar_space (chars ' ' space)
  · intro absent
    refine ⟨fun c hc => ?_, h.start⟩
    rcases h.chars c hc with token | rfl
    · exact token
    · exact absurd hc absent

/-- A name and a number make a token if the name is one. -/
theorem isIdentifierToken_append_iff (h : NameOf label name) (number : Nat) :
    IsIdentifierToken (name ++ "_" ++ toString number).toList ↔
      keepsSpace (wordRuns label.toList) = false := by
  rw [← h.isIdentifierToken_iff]
  have tail : ∀ c ∈ '_' :: (toString number).toList, IsTokenChar c := by
    intro c hc
    rcases List.mem_cons.mp hc with rfl | hc
    · decide
    · rw [Nat.toString_eq_repr, Nat.toList_repr] at hc
      have digit : c.isDigit = true := Nat.isDigit_of_mem_toDigits (by decide) (by decide) hc
      exact isTokenChar_of_isDigit digit
  have shape : (name ++ "_" ++ toString number).toList
      = name.toList ++ '_' :: (toString number).toList := by simp
  have start : ∃ c rest, name.toList = c :: rest := by
    cases text : name.toList with
    | nil =>
        have first := h.start
        rw [text] at first
        cases first
    | cons c rest => exact ⟨c, rest, rfl⟩
  obtain ⟨c, rest, text⟩ := start
  rw [IsIdentifierToken, shape, List.forall_mem_append, and_iff_left tail, IsIdentifierToken, text]
  rfl

end NameOf

def leavesSpace (label : String) : Bool := keepsSpace (wordRuns label.toList)

/-- Whatever the label, its identifiers are not empty, do not begin with a number and hold, spaces
apart, no white space and no ASCII character but letters, digits and underscores. A space is left
exactly if one stays between the runs of the label. So the name of a component, the getter of a
state entry and the key of a style are each one token exactly if no space stays in the label that
they are made of; for a setter that label has `set_` in front. -/
theorem identifiers_of_label (label : String) :
    (∀ name ∈ [camelName label, pascalName label],
      name ≠ "" ∧
        name.toList.head?.any (fun c => !isNumeric c) = true ∧
        (∀ c ∈ name.toList, c ≠ ' ' →
          isWhitespace c = false ∧ (c.toNat < 128 → c.isAlphanum = true ∨ c = '_')) ∧
        (' ' ∈ name.toList ↔ leavesSpace label = true)) ∧
      (IsIdentifierToken (pascalName label).toList ↔ leavesSpace label = false) ∧
      (IsIdentifierToken (getterName label).toList ↔ leavesSpace label = false) ∧
      (IsIdentifierToken (setterName label).toList ↔ leavesSpace ("set_" ++ label) = false) ∧
      ∀ number : Nat,
        IsIdentifierToken (entryKey label number).toList ↔ leavesSpace label = false := by
  refine ⟨?_, (nameOf_pascalName label).isIdentifierToken_iff,
    (nameOf_camelName label).isIdentifierToken_iff,
    (nameOf_camelName ("set_" ++ label)).isIdentifierToken_iff,
    (nameOf_camelName label).isIdentifierToken_append_iff⟩
  intro name hname
  have named : NameOf label name := by
    simp only [List.mem_cons, List.not_mem_nil, or_false] at hname
    rcases hname with rfl | rfl
    · exact nameOf_camelName label
    · exact nameOf_pascalName label
  refine ⟨?_, named.start, ?_, named.space⟩
  · rintro rfl
    exact absurd named.start (by decide)
  · intro c hc other
    rcases named.chars c hc with ⟨ident, clear⟩ | rfl
    · refine ⟨clear, fun ascii => ?_⟩
      rcases ident with high | word
      · omega
      · exact word
    · exact absurd rfl other

/-- A voiced sound mark fuses with the space before it, which then stays in the identifier. -/
theorem camelName_keeps_space :
    ' ' ∈ (camelName "a ﾞ").toList ∧ isWhitespace ' ' = true ∧
      ¬ IsIdentifierToken (camelName "a ﾞ").toList := by
  decide +kernel

end Viewsmith
