import Mathlib.Data.List.Basic
import Viewsmith.Proofs.Identifier.Spaces

/-!
# Names of setters

The setter of a state entry is named by the label of the entry with `set_` in front. The words of
that label are `set` and the words of the entry's own label, so the setter is `set` and the Pascal
form of the state name (`setterName_eq`), which takes a look at the one letter that can stay with
the space before it. Two labels therefore have one setter exactly if they have one Pascal form
(`setterName_eq_iff`), and no label is its own setter (`getterName_ne_setterName`).
-/

namespace Viewsmith

open Unicode

/-! ## Characters that no case mapping yields -/

/-- Whether a character comes out of a case mapping only where it went in. -/
def isNoImage (x : Char) : Bool :=
  ((lowerRuns ++ upperRuns).all fun r =>
      x.toNat < r.target || r.target + (r.last - r.first) < x.toNat)
    && (upperExpansions.all fun e => !e.2.contains x.toNat)
    && !(['i', Char.ofNat 0x307, 'σ', 'ς'].contains x)
    && x.toNat ≠ 0

theorem ofNat_ne_of_toNat_ne {x : Char} {n : Nat} (other : n ≠ x.toNat) (positive : x.toNat ≠ 0) :
    Char.ofNat n ≠ x := by
  rintro rfl
  by_cases valid : n.isValidChar
  · exact other (toNat_ofNat_of_valid valid).symm
  · rw [Char.ofNat, dif_neg valid] at positive
    exact positive rfl

theorem keptByCase_ne {x : Char} (h : isNoImage x = true) : KeptByCase (· ≠ x) := by
  simp only [isNoImage, Bool.and_eq_true, List.all_eq_true, Bool.or_eq_true, decide_eq_true_eq,
    Bool.not_eq_true', List.contains_eq_mem, List.mem_cons, List.not_mem_nil, or_false,
    decide_eq_false_iff_not, not_or] at h
  obtain ⟨⟨⟨runs, expansions⟩, small, dot, sigma, final⟩, positive⟩ := h
  apply keptByCase_of_images
  · intro r hr n above below
    apply ofNat_ne_of_toNat_ne _ positive
    have apart := runs r hr
    omega
  · intro e he n hn
    apply ofNat_ne_of_toNat_ne _ positive
    rintro rfl
    exact expansions e he hn
  · exact ⟨Ne.symm small, Ne.symm dot⟩
  · exact ⟨Ne.symm sigma, Ne.symm final⟩

/-! ## Names without underscores -/

theorem ne_underscore_of_mem_labelWords {label word : List Char} (hw : word ∈ labelWords label) :
    ∀ c ∈ word, c ≠ '_' := by
  intro c hc
  have underscore : isWordChar '_' = false := by decide
  rintro rfl
  rcases mem_labelWords hw hc with h | h
  · rw [underscore] at h
    cases h
  · cases h

theorem keptByCase_ne_underscore : KeptByCase (· ≠ '_') := keptByCase_ne (by decide +kernel)

theorem underscore_notMem_pascalWords (label : List Char) :
    '_' ∉ pascalWords (labelWords label) := fun h =>
  keptByCase_ne_underscore.forall_mem_pascalWords
    (fun _ hw => ne_underscore_of_mem_labelWords hw) '_' h rfl

theorem underscore_notMem_camelWords (label : List Char) :
    '_' ∉ camelWords (labelWords label) := fun h =>
  keptByCase_ne_underscore.forall_mem_camelWords
    (fun _ hw => ne_underscore_of_mem_labelWords hw) '_' h rfl

/-- What joined words become when they are made bindable can be undone. -/
theorem filter_bindable {name : List Char} (plain : '_' ∉ name) :
    (bindable name).toList.filter (· ≠ '_') = name := by
  obtain ⟨front, back, same, hfront, hback, -⟩ := bindable_eq name
  have none_front : front.filter (· ≠ '_') = [] := by
    rw [List.filter_eq_nil_iff]
    intro c hc
    simp [hfront c hc]
  have none_back : back.filter (· ≠ '_') = [] := by
    rw [List.filter_eq_nil_iff]
    intro c hc
    simp [hback c hc]
  have all_name : name.filter (· ≠ '_') = name := by
    rw [List.filter_eq_self]
    intro c hc
    have other : c ≠ '_' := fun h => plain (h ▸ hc)
    simpa using other
  rw [same, List.filter_append, List.filter_append, none_front, none_back, all_name]
  simp

theorem bindable_inj {a b : List Char} (plainA : '_' ∉ a) (plainB : '_' ∉ b) :
    bindable a = bindable b ↔ a = b := by
  constructor
  · intro same
    rw [← filter_bindable plainA, ← filter_bindable plainB, same]
  · rintro rfl
    rfl

theorem pascalName_eq_iff (a b : String) :
    pascalName a = pascalName b ↔
      pascalWords (labelWords a.toList) = pascalWords (labelWords b.toList) :=
  bindable_inj (underscore_notMem_pascalWords _) (underscore_notMem_pascalWords _)

/-! ## Letters that join -/

/-- The letters that stay with the character before them. -/
def joiningLetters : List Char := ['ำ', 'ຳ', 'ﾞ', 'ﾟ']

theorem mem_joiningLetters {c : Char} (joining : clusterClass c = .joining) :
    c ∈ joiningLetters := by
  have inside : inRanges joiningRanges c.toNat = true := by
    by_contra outside
    unfold clusterClass at joining
    simp only [outside, if_false] at joining
    repeat' split at joining
    all_goals cases joining
  obtain ⟨r, hr, low, high⟩ := exists_range_of_inRanges inside
  have bounds : ∀ r ∈ joiningRanges, r = (0xE33, 0xE33) ∨ r = (0xEB3, 0xEB3) ∨
      r = (0xFF9E, 0xFF9F) := by
    decide
  have code : c.toNat = 0xE33 ∨ c.toNat = 0xEB3 ∨ c.toNat = 0xFF9E ∨ c.toNat = 0xFF9F := by
    generalize c.toNat = n at low high
    rcases bounds r hr with rfl | rfl | rfl <;> dsimp only at low high <;> omega
  rw [← Char.ofNat_toNat c]
  rcases code with h | h | h | h <;> rw [h] <;> decide

/-- A letter that joins has no case. -/
theorem images_of_joining {c : Char} (joining : clusterClass c = .joining) :
    lowerChar c = [c] ∧ upperChar c = [c] := by
  have images : ∀ c ∈ joiningLetters, lowerChar c = [c] ∧ upperChar c = [c] :=
    List.all_iff_forall_prop.mp (by decide +kernel)
  exact images c (mem_joiningLetters joining)

/-- The sigma rule does not look past a letter that joins a space. -/
theorem startsCased_joining {c : Char} (joining : clusterClass c = .joining) (before : List Char) :
    startsCased (c :: ' ' :: before) = false := by
  have cased : ∀ c ∈ joiningLetters, isCased c = false :=
    List.all_iff_forall_prop.mp (by decide +kernel)
  have space : isCaseIgnorable ' ' = false ∧ isCased ' ' = false := by decide +kernel
  rw [startsCased]
  split
  · rw [startsCased, space.1, space.2]
    rfl
  · exact cased c (mem_joiningLetters joining)

theorem isDigit_of_joining {c : Char} (joining : clusterClass c = .joining) :
    c.isDigit = false := by
  have digits : ∀ c ∈ joiningLetters, c.isDigit = false :=
    List.all_iff_forall_prop.mp (by decide)
  exact digits c (mem_joiningLetters joining)

/-- The letters that join come out of no case mapping. -/
theorem isNoImage_of_joining {c : Char} (joining : clusterClass c = .joining) :
    isNoImage c = true := by
  have none : ∀ c ∈ joiningLetters, isNoImage c = true :=
    List.all_iff_forall_prop.mp (by decide +kernel)
  exact none c (mem_joiningLetters joining)

theorem upperChar_ne_nil (c : Char) : upperChar c ≠ [] := by
  have expansions : ∀ e ∈ upperExpansions, e.2 ≠ [] := by decide +kernel
  unfold upperChar
  split
  · rename_i expansion found
    obtain ⟨before, after, split, -⟩ := List.lookup_eq_some_iff.mp found
    rw [Ne, List.map_eq_nil_iff]
    exact expansions (c.toNat, expansion) (by simp [split])
  · simp

def startsJoining (text : List Char) : Bool := text.head?.any (clusterClass · == .joining)

theorem startsJoining_cons (c : Char) (rest : List Char) :
    startsJoining (c :: rest) = (clusterClass c == .joining) := rfl

/-- Joined words begin with a letter that joins exactly if the first of them does. -/
theorem startsJoining_pascalWords {c : Char} (rest : List Char) (words : List (List Char)) :
    startsJoining (pascalWords ((c :: rest) :: words)) = (clusterClass c == .joining) := by
  obtain ⟨d, image, shape⟩ := List.exists_cons_of_ne_nil (upperChar_ne_nil c)
  have joined : pascalWords ((c :: rest) :: words)
      = d :: (image ++ lower rest ++ pascalWords words) := by
    simp [pascalWords, capitalize, shape]
  rw [joined, startsJoining_cons, Bool.eq_iff_iff, beq_iff_eq, beq_iff_eq]
  constructor
  · intro joining
    by_contra other
    have differs : c ≠ d := fun same => other (same ▸ joining)
    have kept := (keptByCase_ne (isNoImage_of_joining joining)).upperChar differs
    exact kept d (shape ▸ List.mem_cons_self) rfl
  · intro joining
    rw [(images_of_joining joining).2] at shape
    rw [← (List.cons.inj shape).1]
    exact joining

/-! ## Clusters without case -/

/-- A cluster in which neither case nor digits end a word. -/
structure IsCaseless (cluster : List Char) : Prop where
  upper : isUpperCluster cluster = false
  lower : isLowerCluster cluster = false
  digit : isDigitCluster cluster = false

theorem lowerAfter_eq_self : ∀ {text : List Char}, (∀ c ∈ text, lowerChar c = [c]) →
    ∀ before, lowerAfter before text = text
  | [], _, _ => rfl
  | c :: rest, h, before => by
      have small : lowerChar 'Σ' ≠ ['Σ'] := by decide +kernel
      rw [List.forall_mem_cons] at h
      have other : c ≠ 'Σ' := by
        rintro rfl
        exact small h.1
      rw [lowerAfter, if_neg other, h.1, lowerAfter_eq_self h.2]
      rfl

theorem isCaseless_of_images {cluster : List Char}
    (images : ∀ c ∈ cluster, lowerChar c = [c] ∧ upperChar c = [c])
    (digit : isDigitCluster cluster = false) : IsCaseless cluster := by
  have low : Unicode.lower cluster = cluster :=
    lowerAfter_eq_self (fun c hc => (images c hc).1) []
  have up : Unicode.upper cluster = cluster := by
    have same : cluster.flatMap upperChar = cluster.flatMap ([·]) :=
      List.flatMap_congr fun c hc => (images c hc).2
    rw [Unicode.upper, same, List.flatMap_singleton']
  constructor
  · simp [isUpperCluster, low, up]
  · simp [isLowerCluster, low, up]
  · exact digit

theorem IsCaseless.endsWord {cluster : List Char} (h : IsCaseless cluster) :
    ∀ more, endsWord cluster more = false
  | [] => rfl
  | [b] => by simp [Viewsmith.endsWord, changesKind, h.upper, h.lower, h.digit]
  | b :: c :: more => by simp [Viewsmith.endsWord, changesKind, h.upper, h.lower, h.digit]

theorem joins_of_joining {c : Char} (joining : clusterClass c = .joining) (d : Char) :
    joins c d = (clusterClass d == .joining) := by
  unfold joins
  rw [joining]
  cases clusterClass d <;> rfl

/-- A cluster that begins with a letter that joins is made of such letters. -/
theorem joining_of_mem_cluster : ∀ {rest : List Char} {c : Char} {cluster more},
    clusterClass c = .joining → clusters (c :: rest) = (c :: cluster) :: more →
      ∀ d ∈ cluster, clusterClass d = .joining
  | [], c, cluster, more, _, shape, d, hd => by
      have single : clusters [c] = [[c]] := rfl
      rw [single] at shape
      cases shape
      cases hd
  | e :: rest, c, cluster, more, joining, shape, d, hd => by
      obtain ⟨next, others, further⟩ := clusters_cons e rest
      have pushed : clusters (c :: e :: rest) = pushCluster c ((e :: next) :: others) := by
        rw [← further]
        rfl
      rw [pushed, pushCluster, joins_of_joining joining] at shape
      split at shape
      · rename_i together
        have same := (List.cons.inj (List.cons.inj shape).1).2
        rw [← same] at hd
        have first : clusterClass e = .joining := by simpa using together
        rcases List.mem_cons.mp hd with rfl | hd
        · exact first
        · exact joining_of_mem_cluster first further d hd
      · have same := (List.cons.inj (List.cons.inj shape).1).2
        rw [← same] at hd
        cases hd

theorem isCaseless_joining {c : Char} {cluster : List Char} (joining : clusterClass c = .joining)
    (others : ∀ d ∈ cluster, clusterClass d = .joining) : IsCaseless (c :: cluster) := by
  apply isCaseless_of_images
  · intro d hd
    rcases List.mem_cons.mp hd with rfl | hd
    · exact images_of_joining joining
    · exact images_of_joining (others d hd)
  · simp [isDigitCluster, isDigit_of_joining joining]

theorem isCaseless_space {cluster : List Char}
    (others : ∀ d ∈ cluster, clusterClass d = .joining) : IsCaseless (' ' :: cluster) := by
  apply isCaseless_of_images
  · intro d hd
    rcases List.mem_cons.mp hd with rfl | hd
    · decide +kernel
    · exact images_of_joining (others d hd)
  · rfl

/-! ## Words of a label with `set_` in front -/

/-- Runs of a text whose first run ends at a separator. -/
theorem wordRuns_append_cons {run : List Char} (word : ∀ c ∈ run, isWordChar c = true)
    (nonempty : run ≠ []) {separator : Char} (separates : isWordChar separator = false)
    (text : List Char) : wordRuns (run ++ separator :: text) = run :: wordRuns text := by
  have parts : (run ++ separator :: text).splitOnP (!isWordChar ·)
      = run :: text.splitOnP (!isWordChar ·) := by
    apply List.splitOnP_append_cons_of_forall_mem
    · intro c hc
      simp [word c hc]
    · simp [separates]
  rw [wordRuns, parts, List.filter_cons_of_pos (by simpa using nonempty), wordRuns]

theorem spacedLabel_set (label : List Char) :
    spacedLabel ("set_".toList ++ label)
      = "set".toList ++ if spacedLabel label = [] then [] else ' ' :: spacedLabel label := by
  have word : ∀ c ∈ "set".toList, isWordChar c = true :=
    List.all_iff_forall_prop.mp (by decide +kernel)
  have separates : isWordChar '_' = false := by decide +kernel
  have runs : wordRuns ("set_".toList ++ label) = "set".toList :: wordRuns label :=
    wordRuns_append_cons word (by decide) separates label
  rw [spacedLabel, runs, intercalate_cons_wordRuns]

theorem clusters_space_cons {c : Char} {rest cluster : List Char} {more : List (List Char)}
    (row : clusters (c :: rest) = (c :: cluster) :: more) :
    clusters (' ' :: c :: rest)
      = if clusterClass c == .joining then (' ' :: c :: cluster) :: more
        else [' '] :: (c :: cluster) :: more := by
  have pushed : clusters (' ' :: c :: rest) = pushCluster ' ' (clusters (c :: rest)) := rfl
  rw [pushed, row, pushCluster, joins_space_left]

/-- The clusters of `set` and a space before a text: the letters are clusters of their own. -/
theorem clusters_set {text first : List Char} {more : List (List Char)}
    (shape : clusters (' ' :: text) = (' ' :: first) :: more) :
    clusters ("set".toList ++ ' ' :: text)
      = ['s'] :: ['e'] :: ['t'] :: (' ' :: first) :: more := by
  have pushed : clusters ("set".toList ++ ' ' :: text)
      = pushCluster 's' (pushCluster 'e' (pushCluster 't' (clusters (' ' :: text)))) := rfl
  have apart : joins 't' ' ' = false ∧ joins 'e' 't' = false ∧ joins 's' 'e' = false := by decide
  rw [pushed, shape]
  simp [pushCluster, apart]

/-- A small letter ends its word before a capital or a digit only. -/
theorem endsWord_small {a b : List Char} (small : isUpperCluster a = false)
    (letter : isDigitCluster a = false) (upper : isUpperCluster b = false)
    (digit : isDigitCluster b = false) (more : List (List Char)) :
    endsWord a (b :: more) = false := by
  cases more with
  | nil => simp [endsWord, changesKind, small, letter, upper, digit]
  | cons c more => simp [endsWord, changesKind, small, letter, upper, digit]

/-- The letters of `set` stay in one word, which takes what is left open after them. -/
theorem splitClusters_set {cluster : List Char} (caseless : IsCaseless cluster)
    (more : List (List Char)) :
    splitClusters (['s'] :: ['e'] :: ['t'] :: cluster :: more)
      = (splitClusters (cluster :: more)).modifyHead ("set".toList ++ ·) := by
  have small : ∀ a ∈ [['s'], ['e'], ['t']],
      isUpperCluster a = false ∧ isDigitCluster a = false ∧ a ≠ [' '] := by
    decide +kernel
  simp only [List.forall_mem_cons] at small
  obtain ⟨⟨s, s', s''⟩, ⟨e, e', e''⟩, ⟨t, t', t''⟩, -⟩ := small
  rw [splitClusters, if_neg s'', endsWord_small s s' e e', splitClusters, if_neg e'',
    endsWord_small e e' t t', splitClusters, if_neg t'',
    endsWord_small t t' caseless.upper caseless.digit]
  simp [List.modifyHead_modifyHead, Function.comp_def]

theorem splitClusters_caseless {c : Char} {cluster : List Char}
    (caseless : IsCaseless (c :: cluster)) (other : c :: cluster ≠ [' '])
    (more : List (List Char)) :
    splitClusters ((c :: cluster) :: more)
      = (splitClusters more).modifyHead (c :: cluster ++ ·) := by
  rw [splitClusters, if_neg other, caseless.endsWord]
  rfl

/-- The words of a label whose first letter does not join the space before it. -/
theorem labelWords_set {label : List Char} (apart : startsJoining (spacedLabel label) = false) :
    labelWords ("set_".toList ++ label) = "set".toList :: labelWords label := by
  rw [labelWords, spacedLabel_set, labelWords]
  rcases spacedLabel_eq_nil_or_cons label with none | ⟨c, rest, shape, -⟩
  · have single : splitClusters (clusters "set".toList) = ["set".toList] := by decide +kernel
    rw [none, if_pos rfl, List.append_nil, single]
    decide
  · rw [shape, startsJoining_cons] at apart
    obtain ⟨cluster, more, row⟩ := clusters_cons c rest
    have alone : clusters (' ' :: c :: rest) = [' '] :: clusters (c :: rest) := by
      rw [clusters_space_cons row, apart, row]
      rfl
    rw [shape, if_neg (by simp), clusters_set alone, splitClusters_set (isCaseless_space (by simp)),
      splitClusters, if_pos rfl, List.modifyHead_cons]
    rfl

/-- The words of a label whose first letter joins the space before it: the space and the first word
are one word with `set`. -/
theorem labelWords_set_of_joining {label : List Char}
    (joining : startsJoining (spacedLabel label) = true) :
    ∃ c word words, clusterClass c = .joining ∧ labelWords label = (c :: word) :: words ∧
      labelWords ("set_".toList ++ label) = ("set ".toList ++ c :: word) :: words := by
  rcases spacedLabel_eq_nil_or_cons label with none | ⟨c, rest, shape, -⟩
  · rw [none] at joining
    cases joining
  · rw [shape, startsJoining_cons, beq_iff_eq] at joining
    obtain ⟨cluster, more, row⟩ := clusters_cons c rest
    have others := joining_of_mem_cluster joining row
    have alone : clusters (' ' :: c :: rest) = (' ' :: c :: cluster) :: more := by
      rw [clusters_space_cons row, joining]
      rfl
    have space : IsCaseless (' ' :: c :: cluster) := isCaseless_space (by
      rw [List.forall_mem_cons]
      exact ⟨joining, others⟩)
    obtain ⟨word, words, further⟩ := List.exists_cons_of_ne_nil (splitClusters_ne_nil more)
    have other : c :: cluster ≠ [' '] := by
      rintro same
      rw [(List.cons.inj same).1] at joining
      revert joining
      decide
    refine ⟨c, cluster ++ word, words.filter (!·.isEmpty), joining, ?_, ?_⟩
    · rw [labelWords, shape, row, splitClusters_caseless (isCaseless_joining joining others) other,
        further]
      rfl
    · rw [labelWords, spacedLabel_set, shape, if_neg (by simp), clusters_set alone,
        splitClusters_set space, splitClusters_caseless space (by simp), further]
      rfl

/-! ## Setters -/

/-- The name of the setter of a state entry, for the Pascal form of its words. A letter that stays
with the space before it keeps one. -/
def joinSetter (pascal : List Char) : List Char :=
  "set".toList ++ (if startsJoining pascal then [' '] else []) ++ pascal

theorem startsCased_append {before : List Char} (stop : startsCased before = false) :
    ∀ text : List Char, startsCased (text ++ before) = startsCased text
  | [] => stop
  | c :: rest => by
      rw [List.cons_append, startsCased, startsCased, startsCased_append stop rest]

/-- What stands before a text does not change its small letters if no cased letter is next to it. -/
theorem lowerAfter_append {before : List Char} (stop : startsCased before = false) :
    ∀ text near : List Char, lowerAfter (near ++ before) text = lowerAfter near text
  | [], _ => rfl
  | c :: rest, near => by
      rw [lowerAfter, lowerAfter, startsCased_append stop, ← List.cons_append,
        lowerAfter_append stop rest]

theorem lower_set_joining {c : Char} (joining : clusterClass c = .joining) (word : List Char) :
    lower ("set ".toList ++ c :: word) = "set ".toList ++ capitalize (c :: word) := by
  have other : c ≠ 'Σ' := by
    rintro rfl
    revert joining
    decide
  have small : lowerChar 's' = ['s'] ∧ lowerChar 'e' = ['e'] ∧ lowerChar 't' = ['t'] ∧
      lowerChar ' ' = [' '] := by
    decide +kernel
  have front : lower ("set ".toList ++ c :: word)
      = "set ".toList ++ lowerAfter " tes".toList (c :: word) := by
    have letters : "set ".toList = ['s', 'e', 't', ' '] := rfl
    rw [lower, letters]
    simp [lowerAfter, small]
  rw [front, lowerAfter, if_neg other, (images_of_joining joining).1, capitalize,
    (images_of_joining joining).2, lower]
  congr 2
  exact lowerAfter_append (startsCased_joining joining _) word []

/-- The setter of a label is `set` and the Pascal form of the label. -/
theorem camelWords_set (label : List Char) :
    camelWords (labelWords ("set_".toList ++ label)) = joinSetter (pascalWords (labelWords label)) := by
  rw [joinSetter]
  cases first : startsJoining (spacedLabel label) with
  | false =>
      have apart : startsJoining (pascalWords (labelWords label)) = false := by
        rcases spacedLabel_eq_nil_or_cons label with none | ⟨c, rest, shape, word⟩
        · rw [labelWords, none]
          rfl
        · have other : c ≠ ' ' := by
            rintro rfl
            simp [isWordChar_space] at word
          obtain ⟨tail, words, own⟩ := labelWords_of_cons shape other
          rw [own, startsJoining_pascalWords, ← first, shape, startsJoining_cons]
      have small : lower "set".toList = "set".toList := by decide +kernel
      rw [labelWords_set first, camelWords, small, apart]
      simp
  | true =>
      obtain ⟨c, word, words, joining, own, shape⟩ := labelWords_set_of_joining first
      rw [own, startsJoining_pascalWords, joining, shape, camelWords, lower_set_joining joining]
      simp [pascalWords]

theorem underscore_notMem_joinSetter {pascal : List Char} (plain : '_' ∉ pascal) :
    '_' ∉ joinSetter pascal := by
  rw [joinSetter]
  split <;> simp [plain]

theorem setterName_eq (state : String) :
    setterName state = bindable (joinSetter (pascalWords (labelWords state.toList))) := by
  rw [setterName, camelName, String.toList_append, camelWords_set]

/-- The Pascal form of a label never begins with a space. -/
theorem head?_pascalWords (label : List Char) : (pascalWords (labelWords label)).head? ≠ some ' ' := by
  rcases labelWords_eq_nil_or_cons label with none | ⟨c, rest, words, shape, word⟩
  · rw [none]
    simp [pascalWords]
  · have other : c ≠ ' ' := by
      rintro rfl
      simp [isWordChar_space] at word
    obtain ⟨d, image, capital⟩ := List.exists_cons_of_ne_nil (upperChar_ne_nil c)
    have kept := (keptByCase_ne (x := ' ') (by decide +kernel)).upperChar other d
      (capital ▸ List.mem_cons_self)
    rw [shape]
    simpa [pascalWords, capitalize, capital] using kept

theorem joinSetter_inj {a b : List Char} (startA : a.head? ≠ some ' ') (startB : b.head? ≠ some ' ') :
    joinSetter a = joinSetter b ↔ a = b := by
  constructor
  · intro same
    rw [joinSetter, joinSetter, List.append_assoc, List.append_assoc, List.append_cancel_left_eq]
      at same
    cases ha : startsJoining a <;> cases hb : startsJoining b
    · simpa [ha, hb] using same
    · have shape : a = ' ' :: b := by simpa [ha, hb] using same
      rw [shape] at startA
      exact absurd rfl startA
    · have shape : ' ' :: a = b := by simpa [ha, hb] using same
      rw [← shape] at startB
      exact absurd rfl startB
    · simpa [ha, hb] using same
  · rintro rfl
    rfl

/-- Two labels have one setter exactly if they have one Pascal form. -/
theorem setterName_eq_iff (a b : String) :
    setterName a = setterName b ↔ pascalName a = pascalName b := by
  rw [setterName_eq, setterName_eq, pascalName_eq_iff,
    bindable_inj (underscore_notMem_joinSetter (underscore_notMem_pascalWords _))
      (underscore_notMem_joinSetter (underscore_notMem_pascalWords _)),
    joinSetter_inj (head?_pascalWords _) (head?_pascalWords _)]

/-! ## Getters -/

theorem length_lowerAfter (text : List Char) :
    ∀ before near : List Char, (lowerAfter before text).length = (lowerAfter near text).length := by
  induction text with
  | nil => exact fun _ _ => rfl
  | cons c rest ih =>
      intro before near
      rw [lowerAfter, lowerAfter, List.length_append, List.length_append, ih _ (c :: near)]
      congr 1
      by_cases sigma : c = 'Σ'
      · rw [if_pos sigma, if_pos sigma]
        split <;> split <;> rfl
      · rw [if_neg sigma, if_neg sigma]

/-- The camel form is longer than the Pascal form by one character at most. -/
theorem length_camelWords_le (words : List (List Char)) :
    (camelWords words).length ≤ (pascalWords words).length + 1 := by
  rcases words with _ | ⟨_ | ⟨c, rest⟩, more⟩
  · simp [camelWords]
  · simp [camelWords, pascalWords, capitalize, lower, lowerAfter]
  · have small : (lower (c :: rest)).length ≤ 2 + (lower rest).length := by
      have image : (lowerChar c).length ≤ 2 := by
        unfold lowerChar
        split <;> simp
      rw [lower, lowerAfter, List.length_append, length_lowerAfter rest [c] [], lower]
      by_cases sigma : c = 'Σ'
      · rw [if_pos sigma]
        split <;> simp
      · rw [if_neg sigma]
        omega
    have capital : 0 < (upperChar c).length := List.length_pos_iff.mpr (upperChar_ne_nil c)
    rw [camelWords, List.length_append]
    simp only [pascalWords, List.flatMap_cons, capitalize, List.length_append]
    omega

/-- No state entry has one name for its getter and its setter. -/
theorem getterName_ne_setterName (state : String) : getterName state ≠ setterName state := by
  rw [setterName_eq, getterName, camelName, Ne,
    bindable_inj (underscore_notMem_camelWords _)
      (underscore_notMem_joinSetter (underscore_notMem_pascalWords _))]
  intro same
  have longer := congrArg List.length same
  have close := length_camelWords_le (labelWords state.toList)
  have three : "set".toList.length = 3 := rfl
  simp only [joinSetter, List.length_append, three] at longer
  omega

end Viewsmith
