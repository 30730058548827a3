import Mathlib.Data.Bool.AllAny
import Viewsmith.Code.SourceFile
import Viewsmith.CommandLine.FileSystem
import Viewsmith.Proofs.Identifier.Characters

/-!
# Names of generated files

A file is named after its component, and the name of a component is free text: it can hold slashes,
dots and control characters, or look like a way out of the directory. None of this reaches the name
of the file, since only letters and digits of a name are kept and no case mapping makes anything else
of them. So the path of a file is one name, which leads to an entry of the working directory itself
(`path_of_generateFile`).
-/

namespace Viewsmith

open Unicode CommandLine

/-! ## Control characters -/

def isControl (c : Char) : Bool := c.toNat < 0x20 || (0x7F ≤ c.toNat && c.toNat < 0xA0)

/-- A character that the name of a file may hold in front of its extension. -/
def IsStemChar (c : Char) : Prop := IsIdentifierChar c ∧ isControl c = false

instance (c : Char) : Decidable (IsStemChar c) :=
  inferInstanceAs (Decidable (_ ∧ _))

/-- The ASCII characters of identifiers are no controls. -/
theorem isControl_of_isIdentifierChar {c : Char} (h : IsIdentifierChar c)
    (apart : c.toNat < 0x80 ∨ 0xA0 ≤ c.toNat) : isControl c = false := by
  have shown : ∀ n < 0x80, IsIdentifierChar (Char.ofNat n) → isControl (Char.ofNat n) = false := by
    decide
  rcases apart with ascii | high
  · have plain := shown c.toNat ascii
    rw [Char.ofNat_toNat] at plain
    exact plain h
  · simp only [isControl, Bool.or_eq_false_iff, Bool.and_eq_false_iff, decide_eq_false_iff_not]
    omega

/-- Whether a range of code points is clear of the controls outside ASCII. -/
def isShownRange (first last : Nat) : Bool := last < 0x80 || 0xA0 ≤ first

theorem isStemChar_of_range {first last n : Nat} (shown : isShownRange first last = true)
    (above : first ≤ n) (below : n ≤ last) (h : IsIdentifierChar (Char.ofNat n)) :
    IsStemChar (Char.ofNat n) := by
  simp only [isShownRange, Bool.or_eq_true, decide_eq_true_eq] at shown
  refine ⟨h, isControl_of_isIdentifierChar h ?_⟩
  by_cases valid : n.isValidChar
  · rw [toNat_ofNat_of_valid valid]
    omega
  · rw [Char.ofNat, dif_neg valid]
    exact Or.inl (by decide)

theorem isShownRange_of_mem_wordRanges : ∀ r ∈ letterRanges ++ decimalDigitRanges,
    isShownRange r.1 r.2 = true := by
  decide +kernel

theorem isShownRange_of_mem_caseRuns : ∀ r ∈ lowerRuns ++ upperRuns,
    isShownRange r.target (r.target + (r.last - r.first)) = true := by
  decide +kernel

theorem isStemChar_of_mem_upperExpansions : ∀ e ∈ upperExpansions, ∀ n ∈ e.2,
    IsStemChar (Char.ofNat n) := by
  decide +kernel

theorem isStemChar_of_isWordChar {c : Char} (h : isWordChar c = true) : IsStemChar c := by
  obtain ⟨r, hr, above, below⟩ := exists_range_of_isWordChar h
  have char := isIdentifierChar_of_isWordChar h
  rw [← Char.ofNat_toNat c] at char ⊢
  exact isStemChar_of_range (isShownRange_of_mem_wordRanges r hr) above below char

theorem keptByCase_isStemChar : KeptByCase IsStemChar :=
  keptByCase_of_images
    (fun r hr _ above below => isStemChar_of_range (isShownRange_of_mem_caseRuns r hr) above below
      (isIdentifierChar_of_range (identifierRange_of_mem_caseRuns r hr) above below))
    isStemChar_of_mem_upperExpansions (by decide) (by decide)

/-- The name of a component is made of characters that the name of a file may hold, and spaces. -/
theorem isStemChar_of_mem_pascalName {name : String} {c : Char} (h : c ∈ (pascalName name).toList) :
    IsStemChar c ∨ c = ' ' :=
  forall_mem_pascalName keptByCase_isStemChar.or_space
    (fun _ word => Or.inl (isStemChar_of_isWordChar word)) (Or.inr rfl) (Or.inl (by decide)) name c h

/-! ## Paths -/

/-- A path without slashes is one name, and leads to an entry of the working directory. -/
theorem locate_pathNames {path : String} (plain : '/' ∉ path.toList) (named : path ∉ ["", ".", ".."])
    (fs : FileSystem) : fs.locate (FileSystem.pathNames path) = .ok [path] := by
  simp only [List.mem_cons, List.not_mem_nil, or_false, not_or] at named
  obtain ⟨nonempty, stays, inside⟩ := named
  have single : FileSystem.pathNames path = [path] := by
    have whole : path.toList.splitOnP (· = '/') = [path.toList] := by
      apply List.splitOnP_eq_singleton
      intro c hc
      have other : c ≠ '/' := fun same => plain (same ▸ hc)
      simp [other]
    rw [FileSystem.pathNames, whole, List.map_singleton, String.ofList_toList]
  have entered : fs.enter [] path = .ok [path] := by
    rw [FileSystem.enter, if_neg (by simp [nonempty, stays]), if_neg inside]
    rfl
  rw [single, FileSystem.locate]
  · simp [entered]
  · simpa using nonempty
  · simpa using nonempty

theorem toList_componentPath (name : String) :
    (componentPath name).toList = (pascalName name).toList ++ ".tsx".toList := by
  simp [componentPath, fileExtension]

/-- The extension of the path of a component has a name without dots in front of it. -/
theorem exists_stem (name : String) : ∃ stem : List Char, stem ≠ [] ∧ '.' ∉ stem ∧
    (componentPath name).toList = stem ++ ".tsx".toList := by
  refine ⟨(pascalName name).toList, ?_, ?_, toList_componentPath name⟩
  · obtain ⟨front, back, shape, -, -, first⟩ := bindable_eq (pascalWords (labelWords name.toList))
    rw [pascalName, shape]
    intro empty
    simp only [List.append_eq_nil_iff] at empty
    exact first empty.1.2 empty.1.1
  · intro dot
    have other : ¬ (IsStemChar '.' ∨ '.' = ' ') := by decide
    exact other (isStemChar_of_mem_pascalName dot)

/-- No separator and no control character is in the path of a component. -/
theorem forall_mem_componentPath (name : String) : ∀ c ∈ (componentPath name).toList,
    c ≠ '/' ∧ c ≠ '\\' ∧ c ≠ ':' ∧ isControl c = false := by
  have separators : ∀ c ∈ ['/', '\\', ':'], ¬ (IsStemChar c ∨ c = ' ') :=
    List.all_iff_forall_prop.mp (by decide)
  rw [toList_componentPath, List.forall_mem_append]
  refine ⟨fun c hc => ?_, List.all_iff_forall_prop.mp (by decide)⟩
  have kept := isStemChar_of_mem_pascalName hc
  refine ⟨?_, ?_, ?_, ?_⟩
  · rintro rfl
    exact separators '/' (by simp) kept
  · rintro rfl
    exact separators '\\' (by simp) kept
  · rintro rfl
    exact separators ':' (by simp) kept
  · rcases kept with ⟨-, shown⟩ | rfl
    · exact shown
    · decide

/-- The path of a generated file is one plain name, whatever the component is called: no slash, no
backslash, no colon and no control character is in it, its only dot is that of its extension, which has
something in front of it, and it leads to an entry of the working directory itself. -/
theorem path_of_generateFile {settings : Settings} {design : Design} {file : GeneratedFile}
    (generated : (generateFile settings design).result = .ok file) :
    (∀ c ∈ file.path.toList, c ≠ '/' ∧ c ≠ '\\' ∧ c ≠ ':' ∧ isControl c = false) ∧
      (∃ stem : List Char, stem ≠ [] ∧ '.' ∉ stem ∧ file.path.toList = stem ++ ".tsx".toList) ∧
      ∀ fs : FileSystem, fs.locate (FileSystem.pathNames file.path) = .ok [file.path] := by
  have named : file.path = componentPath design.root.name := by
    rw [generateFile, Outcome.andThen] at generated
    cases code : (generate settings design).result with
    | error e =>
        rw [code] at generated
        cases generated
    | ok code =>
        rw [code] at generated
        rw [← Except.ok.inj generated]
  rw [named]
  have allowed := forall_mem_componentPath design.root.name
  refine ⟨allowed, exists_stem _, locate_pathNames (fun slash => (allowed '/' slash).1 rfl) ?_⟩
  intro special
  have long : 4 ≤ (componentPath design.root.name).toList.length := by
    rw [toList_componentPath, List.length_append]
    exact Nat.le_add_left 4 _
  have short : ∀ path ∈ ["", ".", ".."], path.toList.length < 4 := by decide
  exact absurd (short _ special) (Nat.not_lt.mpr long)

/-- A component whose name looks like a way out of the directory has a plain path. -/
theorem path_of_escaping :
    (generateFile {} (.new (.new .frame "../../a\\b C:x.\x07y"))).result
        = .ok ⟨"ABCXY.tsx", "export function ABCXY() \x7b\n\x7d\n\nconst styles = \x7b\x7d;\n"⟩ ∧
      (∀ c ∈ "ABCXY.tsx".toList, c ≠ '/' ∧ c ≠ '\\' ∧ c ≠ ':' ∧ isControl c = false) ∧
      FileSystem.empty.locate (FileSystem.pathNames "ABCXY.tsx") = .ok ["ABCXY.tsx"] := by
  have generated : (generateFile {} (.new (.new .frame "../../a\\b C:x.\x07y"))).result
      = .ok ⟨"ABCXY.tsx", "export function ABCXY() \x7b\n\x7d\n\nconst styles = \x7b\x7d;\n"⟩ := by
    decide +kernel
  obtain ⟨plain, -, place⟩ := path_of_generateFile generated
  exact ⟨generated, plain, place .empty⟩

end Viewsmith
