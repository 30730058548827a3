import Mathlib.Data.List.Basic
import Viewsmith.CommandLine.FileSystem

/-!
# Writing one file

Putting a file at a place changes what stands there and nothing else (`find?_put`, `find?_put_of_ne`),
and as no directory stood there, every path leads where it led before (`SameDirectories.locate`). So
after a text has been written it can be read under its path, and under all paths that lead elsewhere
there is to be read what there was (`Accepts.writes`).
-/

namespace Viewsmith.CommandLine

namespace FileSystem

variable {fs : FileSystem} {place : Place} {content : ByteArray}

/-! ## Places -/

theorem find?_of_isNamed (fs : FileSystem) (named : ¬ (isAbove place || place = root) = true) :
    fs.find? place = (fs.entries.find? fun e => e.1 = place).map Prod.snd := by
  rw [find?, if_neg named]

/-- Where no directory stands, there is neither the root nor a directory above the working
directory. -/
theorem isNamed_of_find? (free : fs.find? place ≠ some .directory) :
    ¬ (isAbove place || place = root) = true := by
  intro above
  rw [find?, if_pos above] at free
  exact free rfl

theorem find?_put (free : fs.find? place ≠ some .directory) (entry : FileEntry) :
    (fs.put place entry).find? place = some entry := by
  have absent : (fs.entries.filter fun e => e.1 ≠ place).find? (fun e => e.1 = place) = none := by
    rw [List.find?_eq_none]
    intro e he
    simpa using (List.mem_filter.mp he).2
  rw [find?_of_isNamed _ (isNamed_of_find? free), put, List.find?_append, absent]
  simp

theorem find?_put_of_ne {other : Place} (differs : other ≠ place) (entry : FileEntry) :
    (fs.put place entry).find? other = fs.find? other := by
  have kept : (fs.entries.filter fun e => e.1 ≠ place).find? (fun e => e.1 = other)
      = fs.entries.find? fun e => e.1 = other := by
    rw [List.find?_filter]
    apply congrArg (List.find? · fs.entries)
    funext e
    by_cases same : e.1 = other
    · simp [same, differs]
    · simp [same]
  rw [find?, find?, put, List.find?_append, kept]
  simp [Ne.symm differs]

/-- Directories stay where they are when a file is put where none stands. -/
theorem find?_put_eq_directory (free : fs.find? place ≠ some .directory) (other : Place) :
    (fs.put place (.file content)).find? other = some .directory ↔
      fs.find? other = some .directory := by
  by_cases same : other = place
  · subst same
    simp [find?_put free, free]
  · rw [find?_put_of_ne same]

/-! ## Paths -/

theorem requireDirectory_eq_ok (fs : FileSystem) (place : Place) :
    fs.requireDirectory place = .ok () ↔ fs.find? place = some .directory := by
  unfold requireDirectory
  cases fs.find? place with
  | none => simp
  | some entry => cases entry <;> simp

theorem enter_eq_ok {name : String} {target : Place} :
    fs.enter place name = .ok target ↔ fs.find? place = some .directory ∧
      target = if name = "" ∨ name = "." then place
        else if name = ".." then parent place else place ++ [name] := by
  rw [← requireDirectory_eq_ok, enter]
  cases fs.requireDirectory place with
  | error fault => simp [bind, Except.bind]
  | ok u =>
      simp only [bind, Except.bind, pure, Except.pure, true_and]
      split
      · simp [eq_comm]
      · split <;> simp [eq_comm]

def SameDirectories (fs fs' : FileSystem) : Prop :=
  ∀ place, fs.find? place = some .directory ↔ fs'.find? place = some .directory

theorem SameDirectories.enter {fs fs' : FileSystem} (same : fs.SameDirectories fs') (place : Place)
    (name : String) {target : Place} :
    fs.enter place name = .ok target ↔ fs'.enter place name = .ok target := by
  rw [enter_eq_ok, enter_eq_ok, same place]

theorem SameDirectories.foldlM_enter {fs fs' : FileSystem} (same : fs.SameDirectories fs')
    {target : Place} (names : List String) :
    ∀ place, names.foldlM fs.enter place = .ok target ↔ names.foldlM fs'.enter place = .ok target := by
  induction names with
  | nil => exact fun _ => Iff.rfl
  | cons name rest ih =>
      intro place
      rw [List.foldlM_cons, List.foldlM_cons]
      cases first : fs.enter place name with
      | error fault =>
          cases second : fs'.enter place name with
          | error fault => simp [bind, Except.bind]
          | ok next =>
              rw [(same.enter place name).mpr second] at first
              cases first
      | ok next =>
          rw [(same.enter place name).mp first]
          exact ih next

/-- A path leads where it leads because of the directories. -/
theorem SameDirectories.locate {fs fs' : FileSystem} (same : fs.SameDirectories fs')
    {target : Place} (names : List String) :
    fs.locate names = .ok target ↔ fs'.locate names = .ok target := by
  unfold FileSystem.locate
  split
  · simp
  · exact same.foldlM_enter _ _
  · exact same.foldlM_enter _ _

/-! ## Reading -/

theorem readBytes_eq_ok {path : String} :
    fs.readBytes path = .ok content ↔
      ∃ place, fs.locate (pathNames path) = .ok place ∧ fs.find? place = some (.file content) := by
  rw [readBytes]
  cases fs.locate (pathNames path) with
  | error fault => simp [bind, Except.bind]
  | ok place =>
      simp only [bind, Except.bind, pure, Except.pure, Except.ok.injEq, exists_eq_left']
      cases fs.find? place with
      | none => simp
      | some entry => cases entry <;> simp

theorem fromUTF8?_toUTF8 (text : String) : String.fromUTF8? text.toUTF8 = some text :=
  dif_pos text.isValidUTF8

theorem readText_of_readBytes {path text : String} (bytes : fs.readBytes path = .ok text.toUTF8) :
    fs.readText path = .ok text := by
  rw [readText, bytes]
  simp only [bind, Except.bind]
  rw [fromUTF8?_toUTF8]
  rfl

/-! ## Writing -/

/-- Whether a file can be written under a path: the path leads to a place, does not end like the path
of a directory, and no directory stands there. -/
structure Accepts (fs : FileSystem) (path : String) (place : Place) : Prop where
  leads : fs.locate (pathNames path) = .ok place
  named : (pathNames path).getLast? ≠ some ""
  free : fs.find? place ≠ some .directory

theorem withoutClosing_of_getLast? {names : List String} (named : names.getLast? ≠ some "") :
    withoutClosing names = names := by
  have first : names.reverse.head? ≠ some "" := by rwa [List.head?_reverse]
  have kept : names.reverse.dropWhile (·.isEmpty) = names.reverse := by
    cases shape : names.reverse with
    | nil => rfl
    | cons name rest =>
        rw [shape] at first
        have nonempty : name ≠ "" := fun empty => first (by rw [empty]; rfl)
        simp [nonempty]
  rw [withoutClosing, kept, List.reverse_reverse]

/-- Whether a text can be written does not depend on the text, and what is written is a file. -/
theorem writeText_eq_ok {path text : String} {fs' : FileSystem} :
    fs.writeText path text = .ok fs' ↔
      ∃ place, fs.Accepts path place ∧ fs' = fs.put place (.file text.toUTF8) := by
  rw [writeText]
  by_cases named : (pathNames path).getLast? = some ""
  · have refused : ¬ ∃ place, fs.Accepts path place ∧ fs' = fs.put place (.file text.toUTF8) := by
      rintro ⟨place, accepts, -⟩
      exact accepts.named named
    simp only [refused, iff_false]
    cases fs.locate (withoutClosing (pathNames path)) <;> simp [bind, Except.bind, named]
  · simp only [withoutClosing_of_getLast? named, named, if_false]
    cases led : fs.locate (pathNames path) with
    | error fault =>
        simp only [bind, Except.bind, reduceCtorEq, false_iff]
        rintro ⟨place, accepts, -⟩
        have leads := accepts.leads
        rw [led] at leads
        cases leads
    | ok place =>
        simp only [bind, Except.bind, pure, Except.pure]
        constructor
        · intro written
          refine ⟨place, ⟨led, named, ?_⟩, ?_⟩
          · intro directory
            rw [directory] at written
            cases written
          · split at written
            · cases written
            · exact (Except.ok.inj written).symm
        · rintro ⟨place', accepts, rfl⟩
          have same : place = place' := Except.ok.inj (led.symm.trans accepts.leads)
          subst same
          split
          · rename_i directory
            exact absurd directory accepts.free
          · rfl

/-- Whether the text of the file at a path is all that one file system has of its own: it can be read
under the path, no other place holds anything else, and under every path that does not lead to the
file the same can be read. -/
structure Writes (fs : FileSystem) (path text : String) (fs' : FileSystem) : Prop where
  reads : fs'.readText path = .ok text
  elsewhere : ∃ place, fs.locate (pathNames path) = .ok place ∧
    (∀ other, other ≠ place → fs'.find? other = fs.find? other) ∧
    ∀ q content, fs.locate (pathNames q) ≠ .ok place →
      (fs'.readBytes q = .ok content ↔ fs.readBytes q = .ok content)

/-- Putting a file under a path that accepts one changes what is read under that path, and nothing
else. -/
theorem Accepts.writes {path : String} (accepts : fs.Accepts path place) (text : String) :
    fs.Writes path text (fs.put place (.file text.toUTF8)) := by
  have same : SameDirectories (fs.put place (.file text.toUTF8)) fs := fun other =>
    find?_put_eq_directory accepts.free other
  constructor
  · apply readText_of_readBytes
    rw [readBytes_eq_ok]
    exact ⟨place, (same.locate _).mpr accepts.leads, find?_put accepts.free _⟩
  · refine ⟨place, accepts.leads, fun other differs => find?_put_of_ne differs _, ?_⟩
    intro q content elsewhere
    rw [readBytes_eq_ok, readBytes_eq_ok]
    apply exists_congr
    intro other
    rw [same.locate]
    apply and_congr_right
    intro led
    have differs : other ≠ place := by
      rintro rfl
      exact elsewhere led
    rw [find?_put_of_ne differs]

end FileSystem

end Viewsmith.CommandLine
