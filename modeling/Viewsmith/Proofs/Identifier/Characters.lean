import Mathlib.Data.List.Basic
import Viewsmith.Identifier.Naming

/-!
# The characters of an identifier

An identifier is made of the characters of its label's words in other case, so a property of
characters holds throughout the identifier once it holds of letters, digits, the space and the
underscore and is kept by the case mappings (`forall_mem_camelName`, `forall_mem_pascalName`). Of
the ASCII characters only letters, digits, underscores and spaces are left. A space can come from a
letter that joins the space before it; it is never the first character.
-/

namespace Viewsmith

open Unicode

/-! ## Case mappings -/

/-- A property of characters that changing the case keeps. -/
structure KeptByCase (P : Char → Prop) : Prop where
  lowerChar : ∀ {c}, P c → ∀ d ∈ Unicode.lowerChar c, P d
  upperChar : ∀ {c}, P c → ∀ d ∈ Unicode.upperChar c, P d
  smallSigma : P 'σ'
  finalSigma : P 'ς'

variable {P : Char → Prop}

theorem KeptByCase.forall_mem_lowerAfter (kept : KeptByCase P) :
    ∀ (text before : List Char), (∀ c ∈ text, P c) → ∀ d ∈ lowerAfter before text, P d
  | [], _, _, d, hd => by simp [lowerAfter] at hd
  | c :: rest, before, h, d, hd => by
      rw [lowerAfter, List.mem_append] at hd
      rcases hd with hd | hd
      · split at hd
        · split at hd
          · rw [List.mem_singleton.mp hd]
            exact kept.finalSigma
          · rw [List.mem_singleton.mp hd]
            exact kept.smallSigma
        · exact kept.lowerChar (h c List.mem_cons_self) d hd
      · exact kept.forall_mem_lowerAfter rest (c :: before)
          (fun x hx => h x (List.mem_cons_of_mem _ hx)) d hd

theorem KeptByCase.forall_mem_lower (kept : KeptByCase P) {text : List Char}
    (h : ∀ c ∈ text, P c) : ∀ d ∈ lower text, P d :=
  kept.forall_mem_lowerAfter text [] h

theorem KeptByCase.forall_mem_capitalize (kept : KeptByCase P) {word : List Char}
    (h : ∀ c ∈ word, P c) : ∀ d ∈ capitalize word, P d := by
  intro d hd
  cases word with
  | nil => simp [capitalize] at hd
  | cons c rest =>
      rw [capitalize, List.mem_append] at hd
      rcases hd with hd | hd
      · exact kept.upperChar (h c List.mem_cons_self) d hd
      · exact kept.forall_mem_lower (fun x hx => h x (List.mem_cons_of_mem _ hx)) d hd

theorem KeptByCase.forall_mem_pascalWords (kept : KeptByCase P) {words : List (List Char)}
    (h : ∀ w ∈ words, ∀ c ∈ w, P c) : ∀ d ∈ pascalWords words, P d := by
  intro d hd
  obtain ⟨w, hw, hd⟩ := List.mem_flatMap.mp hd
  exact kept.forall_mem_capitalize (h w hw) d hd

theorem KeptByCase.forall_mem_camelWords (kept : KeptByCase P) {words : List (List Char)}
    (h : ∀ w ∈ words, ∀ c ∈ w, P c) : ∀ d ∈ camelWords words, P d := by
  intro d hd
  cases words with
  | nil => simp [camelWords] at hd
  | cons w rest =>
      rw [camelWords, List.mem_append] at hd
      rcases hd with hd | hd
      · exact kept.forall_mem_lower (h w List.mem_cons_self) d hd
      · exact kept.forall_mem_pascalWords (fun v hv => h v (List.mem_cons_of_mem _ hv)) d hd

/-! ## Words -/

theorem mem_splitClusters : ∀ {row : List (List Char)} {w : List Char} {c : Char},
    w ∈ splitClusters row → c ∈ w → c ∈ row.flatten
  | [], w, c, hw, hc => by
      rw [splitClusters, List.mem_singleton] at hw
      simp [hw] at hc
  | cluster :: rest, w, c, hw, hc => by
      rw [List.flatten_cons, List.mem_append]
      rw [splitClusters] at hw
      split at hw
      · rcases List.mem_cons.mp hw with rfl | hw
        · simp at hc
        · exact Or.inr (mem_splitClusters hw hc)
      · split at hw
        · rcases List.mem_cons.mp hw with rfl | hw
          · exact Or.inl hc
          · exact Or.inr (mem_splitClusters hw hc)
        · cases further : splitClusters rest with
          | nil => simp [further] at hw
          | cons first more =>
              rw [further, List.modifyHead_cons, List.mem_cons] at hw
              rcases hw with rfl | hw
              · rcases List.mem_append.mp hc with hc | hc
                · exact Or.inl hc
                · exact Or.inr (mem_splitClusters (further ▸ List.mem_cons_self) hc)
              · exact Or.inr (mem_splitClusters (further ▸ List.mem_cons_of_mem _ hw) hc)

theorem not_of_mem_splitOnP {p : Char → Bool} : ∀ {text part : List Char},
    part ∈ text.splitOnP p → ∀ c ∈ part, p c = false
  | [], part, hpart, c, hc => by
      rw [List.splitOnP_nil, List.mem_singleton] at hpart
      simp [hpart] at hc
  | x :: rest, part, hpart, c, hc => by
      rw [List.splitOnP_cons_eq_if_modifyHead] at hpart
      split at hpart
      · rcases List.mem_cons.mp hpart with rfl | hpart
        · simp at hc
        · exact not_of_mem_splitOnP hpart c hc
      · rename_i hx
        obtain ⟨first, more, further⟩ :=
          List.exists_cons_of_ne_nil (List.splitOnP_ne_nil p rest)
        rw [further, List.modifyHead_cons, List.mem_cons] at hpart
        rcases hpart with rfl | hpart
        · rcases List.mem_cons.mp hc with rfl | hc
          · simpa using hx
          · exact not_of_mem_splitOnP (further ▸ List.mem_cons_self) c hc
        · exact not_of_mem_splitOnP (further ▸ List.mem_cons_of_mem _ hpart) c hc

theorem isWordChar_of_mem_wordRuns {text run : List Char} {c : Char} (hrun : run ∈ wordRuns text)
    (hc : c ∈ run) : isWordChar c = true := by
  have kept := not_of_mem_splitOnP (List.mem_filter.mp hrun).1 c hc
  simpa using kept

theorem ne_nil_of_mem_wordRuns {text run : List Char} (hrun : run ∈ wordRuns text) : run ≠ [] := by
  have kept := (List.mem_filter.mp hrun).2
  simpa using kept

theorem mem_intercalate {separator : List Char} {c : Char} : ∀ {parts : List (List Char)},
    c ∈ separator.intercalate parts → c ∈ separator ∨ ∃ part ∈ parts, c ∈ part
  | [], h => by simp [List.intercalate_nil] at h
  | [part], h => by
      rw [List.intercalate_singleton] at h
      exact Or.inr ⟨part, List.mem_cons_self, h⟩
  | first :: second :: rest, h => by
      rw [List.intercalate_cons_cons, List.mem_append, List.mem_append] at h
      rcases h with (h | h) | h
      · exact Or.inr ⟨first, List.mem_cons_self, h⟩
      · exact Or.inl h
      · rcases mem_intercalate h with h | ⟨part, hpart, h⟩
        · exact Or.inl h
        · exact Or.inr ⟨part, List.mem_cons_of_mem _ hpart, h⟩

theorem mem_spacedLabel {label : List Char} {c : Char} (h : c ∈ spacedLabel label) :
    isWordChar c = true ∨ c = ' ' := by
  rcases mem_intercalate h with h | ⟨run, hrun, h⟩
  · exact Or.inr (List.mem_singleton.mp h)
  · exact Or.inl (isWordChar_of_mem_wordRuns hrun h)

theorem mem_labelWords {label word : List Char} {c : Char} (hw : word ∈ labelWords label)
    (hc : c ∈ word) : isWordChar c = true ∨ c = ' ' := by
  have h := mem_splitClusters (List.mem_filter.mp hw).1 hc
  rw [flatten_clusters] at h
  exact mem_spacedLabel h

/-! ## The first word -/

theorem spacedLabel_eq_nil_or_cons (label : List Char) :
    spacedLabel label = [] ∨ ∃ c rest, spacedLabel label = c :: rest ∧ isWordChar c = true := by
  rw [spacedLabel]
  cases runs : wordRuns label with
  | nil => exact Or.inl rfl
  | cons run more =>
      have hrun : run ∈ wordRuns label := runs ▸ List.mem_cons_self
      obtain ⟨c, rest, rfl⟩ := List.exists_cons_of_ne_nil (ne_nil_of_mem_wordRuns hrun)
      have word := isWordChar_of_mem_wordRuns hrun (List.mem_cons_self (a := c))
      refine Or.inr ?_
      cases more with
      | nil => exact ⟨c, rest, List.intercalate_singleton, word⟩
      | cons second others =>
          rw [List.intercalate_cons_cons, List.cons_append, List.cons_append]
          exact ⟨c, _, rfl, word⟩

theorem clusters_cons (c : Char) (rest : List Char) :
    ∃ cluster more, clusters (c :: rest) = (c :: cluster) :: more := by
  rw [clusters, List.foldr_cons]
  unfold pushCluster
  split
  · split
    · exact ⟨_, _, rfl⟩
    · exact ⟨_, _, rfl⟩
  · exact ⟨_, _, rfl⟩

theorem splitClusters_ne_nil : ∀ row : List (List Char), splitClusters row ≠ []
  | [] => by simp [splitClusters]
  | cluster :: rest => by
      have further := splitClusters_ne_nil rest
      rw [splitClusters]
      split
      · simp
      · split
        · simp
        · simpa using further

theorem splitClusters_cons {c : Char} (h : c ≠ ' ') (cluster : List Char)
    (more : List (List Char)) :
    ∃ word words, splitClusters ((c :: cluster) :: more) = (c :: word) :: words := by
  rw [splitClusters, if_neg (by simp [h])]
  split
  · exact ⟨_, _, rfl⟩
  · obtain ⟨first, others, further⟩ := List.exists_cons_of_ne_nil (splitClusters_ne_nil more)
    rw [further]
    exact ⟨_, _, rfl⟩

theorem isWordChar_space : isWordChar ' ' = false := by decide

/-- The first word of a label begins like the label without its separators. -/
theorem labelWords_of_cons {label rest : List Char} {c : Char}
    (shape : spacedLabel label = c :: rest) (other : c ≠ ' ') :
    ∃ word words, labelWords label = (c :: word) :: words := by
  obtain ⟨cluster, more, hclusters⟩ := clusters_cons c rest
  obtain ⟨word, words, hwords⟩ := splitClusters_cons other cluster more
  rw [labelWords, shape, hclusters, hwords]
  exact ⟨word, _, rfl⟩

/-- The first word of a label begins with a letter or a digit. -/
theorem labelWords_eq_nil_or_cons (label : List Char) :
    labelWords label = [] ∨
      ∃ c rest words, labelWords label = (c :: rest) :: words ∧ isWordChar c = true := by
  rcases spacedLabel_eq_nil_or_cons label with h | ⟨c, rest, h, word⟩
  · exact Or.inl (by rw [labelWords, h]; rfl)
  · have space : c ≠ ' ' := by
      rintro rfl
      simp [isWordChar_space] at word
    obtain ⟨first, words, shape⟩ := labelWords_of_cons h space
    exact Or.inr ⟨c, first, words, shape, word⟩

/-! ## From a label to its identifier -/

/-- What makes joined words a name adds only underscores, at the ends. -/
theorem bindable_eq (name : List Char) :
    ∃ front back : List Char, (bindable name).toList = front ++ name ++ back ∧
      (∀ c ∈ front, c = '_') ∧ (∀ c ∈ back, c = '_') ∧ (name = [] → front ≠ []) := by
  cases name with
  | nil => exact ⟨['_'], [], rfl, by simp, by simp, by simp⟩
  | cons c rest =>
      simp only [bindable]
      by_cases numeric : isNumeric c = true
      · rw [if_pos numeric]
        split
        · exact ⟨['_'], ['_'], by simp, by simp, by simp, by simp⟩
        · exact ⟨['_'], [], by simp, by simp, by simp, by simp⟩
      · rw [if_neg numeric]
        split
        · exact ⟨[], ['_'], by simp, by simp, by simp, by simp⟩
        · exact ⟨[], [], by simp, by simp, by simp, by simp⟩

theorem forall_mem_bindable (underscore : P '_') {name : List Char} (h : ∀ c ∈ name, P c) :
    ∀ d ∈ (bindable name).toList, P d := by
  obtain ⟨front, back, same, hfront, hback, -⟩ := bindable_eq name
  intro d hd
  rw [same, List.mem_append, List.mem_append] at hd
  rcases hd with (hd | hd) | hd
  · exact hfront d hd ▸ underscore
  · exact h d hd
  · exact hback d hd ▸ underscore

/-- What holds of letters and digits, the space and the underscore and is kept by case holds
throughout a camel-case identifier. -/
theorem forall_mem_camelName (kept : KeptByCase P) (word : ∀ c, isWordChar c = true → P c)
    (space : P ' ') (underscore : P '_') (label : String) :
    ∀ d ∈ (camelName label).toList, P d := by
  refine forall_mem_bindable underscore (kept.forall_mem_camelWords ?_)
  intro w hw c hc
  rcases mem_labelWords hw hc with h | rfl
  · exact word c h
  · exact space

/-- What holds of letters and digits, the space and the underscore and is kept by case holds
throughout a Pascal-case identifier. -/
theorem forall_mem_pascalName (kept : KeptByCase P) (word : ∀ c, isWordChar c = true → P c)
    (space : P ' ') (underscore : P '_') (label : String) :
    ∀ d ∈ (pascalName label).toList, P d := by
  refine forall_mem_bindable underscore (kept.forall_mem_pascalWords ?_)
  intro w hw c hc
  rcases mem_labelWords hw hc with h | rfl
  · exact word c h
  · exact space

/-! ## The first character -/

theorem exists_cons_bindable (underscore : P '_') {name : List Char}
    (h : name = [] ∨ ∃ c rest, name = c :: rest ∧ P c) :
    ∃ c rest, (bindable name).toList = c :: rest ∧ P c := by
  obtain ⟨front, back, same, hfront, -, hempty⟩ := bindable_eq name
  rw [same]
  cases front with
  | cons u more =>
      rw [hfront u List.mem_cons_self]
      exact ⟨'_', _, rfl, underscore⟩
  | nil =>
      rcases h with rfl | ⟨c, rest, rfl, hc⟩
      · exact absurd rfl (hempty rfl)
      · exact ⟨c, _, rfl, hc⟩

theorem KeptByCase.exists_cons_lower (kept : KeptByCase P) {c : Char} (hc : P c)
    (rest : List Char) : ∃ d more, lower (c :: rest) = d :: more ∧ P d := by
  rw [lower, lowerAfter]
  split
  · split
    · exact ⟨_, _, rfl, kept.finalSigma⟩
    · exact ⟨_, _, rfl, kept.smallSigma⟩
  · cases image : Unicode.lowerChar c with
    | nil =>
        unfold Unicode.lowerChar at image
        split at image <;> simp at image
    | cons d more => exact ⟨d, _, rfl, kept.lowerChar hc d (image ▸ List.mem_cons_self)⟩

/-- What holds of letters, digits and the underscore and is kept by case holds of the first
character of a camel-case identifier. -/
theorem exists_cons_camelName (kept : KeptByCase P) (word : ∀ c, isWordChar c = true → P c)
    (underscore : P '_') (label : String) :
    ∃ c rest, (camelName label).toList = c :: rest ∧ P c := by
  refine exists_cons_bindable underscore ?_
  rcases labelWords_eq_nil_or_cons label.toList with h | ⟨c, rest, words, h, hc⟩
  · exact Or.inl (by rw [h]; rfl)
  · obtain ⟨d, more, hd, hp⟩ := kept.exists_cons_lower (word c hc) rest
    rw [h, camelWords, hd]
    exact Or.inr ⟨d, _, rfl, hp⟩

/-! ## ASCII characters -/

/-- A character that an identifier may hold in a language that allows any character outside
ASCII. -/
def IsIdentifierChar (c : Char) : Prop := 128 ≤ c.toNat ∨ c.isAlphanum = true ∨ c = '_'

instance (c : Char) : Decidable (IsIdentifierChar c) :=
  inferInstanceAs (Decidable (_ ∨ _ ∨ _))

def isIdentifierRange (first last : Nat) : Bool :=
  (128 ≤ first && last < 0xD800) || (0xE000 ≤ first && last < 0x110000)
    -- Ranges that reach into ASCII are short enough to be tried one by one.
    || (List.range (last + 1 - first)).all fun k => IsIdentifierChar (Char.ofNat (first + k))

theorem toNat_ofNat_of_valid {n : Nat} (h : n.isValidChar) : (Char.ofNat n).toNat = n := by
  rw [Char.ofNat, dif_pos h]
  rfl

theorem isIdentifierChar_of_range {first last n : Nat} (h : isIdentifierRange first last = true)
    (above : first ≤ n) (below : n ≤ last) : IsIdentifierChar (Char.ofNat n) := by
  simp only [isIdentifierRange, Bool.or_eq_true, Bool.and_eq_true, decide_eq_true_eq,
    List.all_eq_true, List.mem_range] at h
  rcases h with (⟨low, high⟩ | ⟨low, high⟩) | h
  · exact Or.inl (by rw [toNat_ofNat_of_valid (Or.inl (by omega))]; omega)
  · exact Or.inl (by rw [toNat_ofNat_of_valid (Or.inr ⟨by omega, by omega⟩)]; omega)
  · have := h (n - first) (by omega)
    rwa [Nat.add_sub_cancel' above] at this

theorem identifierRange_of_mem_letterRanges : ∀ r ∈ letterRanges ++ decimalDigitRanges,
    128 ≤ r.1 ∨ isIdentifierRange r.1 r.2 = true := by
  decide +kernel

theorem identifierRange_of_mem_caseRuns : ∀ r ∈ lowerRuns ++ upperRuns,
    isIdentifierRange r.target (r.target + (r.last - r.first)) = true := by
  decide +kernel

theorem isIdentifierChar_of_mem_upperExpansions : ∀ e ∈ upperExpansions, ∀ n ∈ e.2,
    IsIdentifierChar (Char.ofNat n) := by
  decide +kernel

theorem exists_range_of_isWordChar {c : Char} (h : isWordChar c = true) :
    ∃ r ∈ letterRanges ++ decimalDigitRanges, r.1 ≤ c.toNat ∧ c.toNat ≤ r.2 := by
  rw [isWordChar, Bool.or_eq_true] at h
  rcases h with h | h
  · obtain ⟨r, hr, bounds⟩ := exists_range_of_inRanges h
    exact ⟨r, List.mem_append_left _ hr, bounds⟩
  · obtain ⟨r, hr, bounds⟩ := exists_range_of_inRanges h
    exact ⟨r, List.mem_append_right _ hr, bounds⟩

theorem isIdentifierChar_of_isWordChar {c : Char} (h : isWordChar c = true) :
    IsIdentifierChar c := by
  obtain ⟨r, hr, above, below⟩ := exists_range_of_isWordChar h
  rcases identifierRange_of_mem_letterRanges r hr with high | range
  · exact Or.inl (Nat.le_trans high above)
  · have := isIdentifierChar_of_range range above below
    rwa [Char.ofNat_toNat] at this

theorem mapRuns_eq_self_or (runs : List CaseRun) (n : Nat) :
    mapRuns runs n = n ∨ ∃ r ∈ runs, n ≤ r.last ∧ mapRuns runs n = r.target + (n - r.first) := by
  induction runs with
  | nil => exact Or.inl rfl
  | cons r rest ih =>
      rw [mapRuns]
      split
      · exact Or.inl rfl
      · split
        · rename_i h
          exact Or.inr ⟨r, List.mem_cons_self, h.1, rfl⟩
        · rcases ih with ih | ⟨q, hq, ih⟩
          · exact Or.inl ih
          · exact Or.inr ⟨q, List.mem_cons_of_mem _ hq, ih⟩

/-- The image of a code point under runs is the code point itself or lies in the image of a run. -/
theorem forall_mapRuns {runs : List CaseRun} (images : ∀ r ∈ runs, ∀ n, r.target ≤ n →
      n ≤ r.target + (r.last - r.first) → P (Char.ofNat n))
    {c : Char} (h : P c) : P (Char.ofNat (mapRuns runs c.toNat)) := by
  rcases mapRuns_eq_self_or runs c.toNat with same | ⟨r, hr, below, image⟩
  · rwa [same, Char.ofNat_toNat]
  · rw [image]
    exact images r hr _ (Nat.le_add_right _ _) (by omega)

/-- Changing the case keeps what holds of every character that it can yield. -/
theorem keptByCase_of_images
    (images : ∀ r ∈ lowerRuns ++ upperRuns, ∀ n, r.target ≤ n →
      n ≤ r.target + (r.last - r.first) → P (Char.ofNat n))
    (expansions : ∀ e ∈ upperExpansions, ∀ n ∈ e.2, P (Char.ofNat n))
    (dotted : P 'i' ∧ P (Char.ofNat 0x307)) (sigmas : P 'σ' ∧ P 'ς') : KeptByCase P where
  lowerChar := by
    intro c h d hd
    unfold Unicode.lowerChar at hd
    split at hd
    · rcases List.mem_cons.mp hd with rfl | hd
      · exact dotted.1
      · rw [List.mem_singleton.mp hd]
        exact dotted.2
    · rw [List.mem_singleton.mp hd]
      exact forall_mapRuns (fun r hr => images r (List.mem_append_left _ hr)) h
  upperChar := by
    intro c h d hd
    unfold Unicode.upperChar at hd
    split at hd
    · rename_i expansion found
      obtain ⟨n, hn, rfl⟩ := List.mem_map.mp hd
      obtain ⟨before, after, split, -⟩ := List.lookup_eq_some_iff.mp found
      exact expansions (c.toNat, expansion) (by simp [split]) n hn
    · rw [List.mem_singleton.mp hd]
      exact forall_mapRuns (fun r hr => images r (List.mem_append_right _ hr)) h
  smallSigma := sigmas.1
  finalSigma := sigmas.2

theorem keptByCase_isIdentifierChar : KeptByCase IsIdentifierChar :=
  keptByCase_of_images
    (fun r hr _ => isIdentifierChar_of_range (identifierRange_of_mem_caseRuns r hr))
    isIdentifierChar_of_mem_upperExpansions (by decide) (by decide)

theorem KeptByCase.or_space (kept : KeptByCase P) : KeptByCase (fun c => P c ∨ c = ' ') where
  lowerChar := by
    rintro c (h | rfl) d hd
    · exact Or.inl (kept.lowerChar h d hd)
    · exact Or.inr (List.mem_singleton.mp hd)
  upperChar := by
    rintro c (h | rfl) d hd
    · exact Or.inl (kept.upperChar h d hd)
    · exact Or.inr (List.mem_singleton.mp hd)
  smallSigma := Or.inl kept.smallSigma
  finalSigma := Or.inl kept.finalSigma

theorem isIdentifierChar_of_mem_camelName {label : String} {c : Char}
    (h : c ∈ (camelName label).toList) : IsIdentifierChar c ∨ c = ' ' :=
  forall_mem_camelName keptByCase_isIdentifierChar.or_space
    (fun _ word => Or.inl (isIdentifierChar_of_isWordChar word)) (Or.inr rfl)
    (Or.inl (by decide)) label c h

theorem isIdentifierChar_of_mem_pascalName {label : String} {c : Char}
    (h : c ∈ (pascalName label).toList) : IsIdentifierChar c ∨ c = ' ' :=
  forall_mem_pascalName keptByCase_isIdentifierChar.or_space
    (fun _ word => Or.inl (isIdentifierChar_of_isWordChar word)) (Or.inr rfl)
    (Or.inl (by decide)) label c h

/-- A camel-case identifier never begins with a space. -/
theorem exists_identifierChar_cons_camelName (label : String) :
    ∃ c rest, (camelName label).toList = c :: rest ∧ IsIdentifierChar c :=
  exists_cons_camelName keptByCase_isIdentifierChar
    (fun _ word => isIdentifierChar_of_isWordChar word) (by decide) label

/-- A letter that joins the space before it keeps that space in the identifier. -/
example : camelName "a ﾞ" = "a ﾞ" := by decide +kernel

end Viewsmith
