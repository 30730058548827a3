import Viewsmith.Proofs.Json.Completeness
import Viewsmith.Proofs.Json.Decoding
import Viewsmith.Settings.Codec

/-!
# Partial settings

Members may be removed from the text of settings; their fields then have their defaults, and all others
are read back as they were written (`parse_remainingText`). This holds of any record whose fields all have
defaults (`SpellsFields.remaining`), so it holds of the two groups of options and of the settings, whose
fields they are.
-/

namespace Viewsmith

namespace Json

variable {limit : Nat}

/-! ## Numbers -/

def naturalNumeral (n : Nat) : Numeral := ⟨false, Nat.toDigits 10 n, [], none⟩

theorem writes_naturalNumeral (n : Nat) : WritesNumeral (naturalNumeral n) (toString n).toList := by
  have written := @WritesNumeral.mk false _ _ _ _ _ (isDigits_toDigits n) (toDigits_of_head?_zero n) .none .none
  rw [if_neg Bool.false_ne_true, List.nil_append, List.append_nil, List.append_nil] at written
  rwa [Nat.toString_eq_ofList_toDigits, String.toList_ofList]

theorem spells_size {n : Nat} (word : n < wordLimit) : Spells limit size (toString n).toList n := by
  have gathered : gather 0 (Nat.toDigits 10 n) = (n, []) := by
    rw [gather_of_lt (by rwa [Nat.ofDigitChars_ten_toDigits]), Nat.ofDigitChars_ten_toDigits]
  have value : (naturalNumeral n).value? = some (.natural n) := by
    simp [Numeral.value?, naturalNumeral, gathered]
  have written := writes_naturalNumeral n
  refine ⟨(nests_of_writesNumeral written).isClosed, fun _ => ⟨_, reads_numeral written, ?_⟩⟩
  simp only [size, value]

theorem nests_boolText (b : Bool) : Nests (boolText b) 0 :=
  nests_of_plain (List.all_eq_true.mp (by cases b <;> decide))

theorem spells_boolean (b : Bool) : Spells limit boolean (boolText b) b :=
  ⟨(nests_boolText b).isClosed, fun _ => ⟨_, reads_bool b, rfl⟩⟩

/-! ## Records without some of their members -/

/-- The members that remain when those of some names are removed. -/
def remaining (removed : String → Bool) (members : List (String × List Char)) :
    List (String × List Char) :=
  members.filter fun m => !removed m.1

/-- The fields of a record, with those of some names back at their defaults. -/
def Fields.reset (removed : String → Bool) : (fs : List Field) → Fields fs → Fields fs
  | [], () => ()
  | f :: fs, (x, xs) => (if removed f.name then f.default?.getD x else x, Fields.reset removed fs xs)

section Records

variable {fs : List Field} {members : List (String × List Char)} {xs : Fields fs}

theorem remaining_cons (removed : String → Bool) (m : String × List Char)
    (members : List (String × List Char)) :
    remaining removed (m :: members)
      = if removed m.1 then remaining removed members else m :: remaining removed members := by
  rw [remaining, List.filter_cons]
  cases removed m.1 <;> rfl

theorem forall_mem_remaining {removed : String → Bool} {p : String × List Char → Prop}
    (h : ∀ m ∈ members, p m) : ∀ m ∈ remaining removed members, p m :=
  fun m hm => h m (List.mem_of_mem_filter hm)

/-- Where every field has a default, the members that remain spell the record with the removed fields
back at their defaults. -/
theorem SpellsFields.remaining (h : SpellsFields limit fs members xs)
    (defaults : ∀ f ∈ fs, f.default?.isSome) (removed : String → Bool) :
    SpellsFields limit fs (Json.remaining removed members) (Fields.reset removed fs xs) := by
  induction h with
  | nil => exact .nil
  | @present f fs members text x xs spells others ih =>
      rw [List.forall_mem_cons] at defaults
      obtain ⟨default, hasDefault⟩ := Option.isSome_iff_exists.mp defaults.1
      rw [remaining_cons, Fields.reset, hasDefault]
      cases removed f.name with
      | true => exact .omitted hasDefault (ih defaults.2)
      | false => exact .present spells (ih defaults.2)
  | @omitted f fs members x xs default others ih =>
      rw [List.forall_mem_cons] at defaults
      rw [Fields.reset, default]
      cases removed f.name with
      | true => exact .omitted default (ih defaults.2)
      | false => exact .omitted default (ih defaults.2)

/-- An object of so many members keeps the record that they spell, with defaults for the removed ones. -/
theorem spells_remaining (what : String) (h : SpellsFields limit fs members xs)
    (distinct : (fs.map Field.name).Nodup) (defaults : ∀ f ∈ fs, f.default?.isSome)
    (removed : String → Bool) :
    Spells (limit + 1) (record what fs) (objectText (Json.remaining removed members))
      (Fields.reset removed fs xs) :=
  spells_record what (h.remaining defaults removed) distinct

end Records

end Json

open Json

/-! ## Settings -/

def WriterOptions.members (o : WriterOptions) : List (String × List Char) :=
  [("indentNumberOfSpaces", (toString o.indentSpaces).toList), ("useTabs", boolText o.useTabs),
    ("quoteStyle", quoted o.quoteStyle.name), ("newLine", quoted o.lineEnd.text)]

def ComponentOptions.members (o : ComponentOptions) : List (String × List Char) :=
  [("exportStyle", quoted o.exportStyle.name), ("stylePrefix", quoted o.stylePrefix),
    ("rowFromLayout", boolText o.rowFromLayout)]

/-- The text of settings without the members of some names, in either group or groups themselves. -/
def Settings.remainingText (s : Settings) (removed : String → Bool) : String :=
  String.ofList (objectText (remaining removed
    [("writer", objectText (remaining removed s.writer.members)),
      ("component", objectText (remaining removed s.component.members))]))

def WriterOptions.reset (o : WriterOptions) (removed : String → Bool) : WriterOptions :=
  let default : WriterOptions := {}
  { indentSpaces := if removed "indentNumberOfSpaces" then default.indentSpaces else o.indentSpaces
    useTabs := if removed "useTabs" then default.useTabs else o.useTabs
    quoteStyle := if removed "quoteStyle" then default.quoteStyle else o.quoteStyle
    lineEnd := if removed "newLine" then default.lineEnd else o.lineEnd }

def ComponentOptions.reset (o : ComponentOptions) (removed : String → Bool) : ComponentOptions :=
  let default : ComponentOptions := {}
  { exportStyle := if removed "exportStyle" then default.exportStyle else o.exportStyle
    stylePrefix := if removed "stylePrefix" then default.stylePrefix else o.stylePrefix
    rowFromLayout := if removed "rowFromLayout" then default.rowFromLayout else o.rowFromLayout }

/-- Settings with the groups and the options of some names back at their defaults. -/
def Settings.reset (s : Settings) (removed : String → Bool) : Settings :=
  { writer := if removed "writer" then {} else s.writer.reset removed
    component := if removed "component" then {} else s.component.reset removed }

/-- Nothing is removed from the text of the settings themselves. -/
theorem Settings.remainingText_none (s : Settings) : s.remainingText (fun _ => false) = s.toJson := rfl

theorem Settings.reset_none (s : Settings) : s.reset (fun _ => false) = s := rfl

section Groups

variable {limit : Nat}

theorem spellsFields_writer {o : WriterOptions} (word : o.indentSpaces < wordLimit) :
    SpellsFields limit writerFields o.members
      (o.indentSpaces, o.useTabs, o.quoteStyle, o.lineEnd, ()) := by
  refine .present (spells_size word) (.present (spells_boolean o.useTabs) (.present (spells_oneOf ?_)
    (.present (spells_oneOf ?_) .nil)))
  · cases o.quoteStyle <;> decide
  · cases o.lineEnd <;> decide

theorem spellsFields_component (o : ComponentOptions) :
    SpellsFields limit componentFields o.members (o.exportStyle, o.stylePrefix, o.rowFromLayout, ()) := by
  refine .present (spells_oneOf ?_) (.present (spells_string o.stylePrefix)
    (.present (spells_boolean o.rowFromLayout) .nil))
  cases o.exportStyle <;> decide

theorem spells_writer {o : WriterOptions} (word : o.indentSpaces < wordLimit) (removed : String → Bool) :
    Spells (limit + 1) decodeWriterOptions (objectText (remaining removed o.members))
      (o.reset removed) := by
  have fields := spells_remaining "struct WriterOptions" (@spellsFields_writer limit o word)
    (by decide) (by simp [writerFields]) removed
  exact fields.bind rfl

theorem spells_component (o : ComponentOptions) (removed : String → Bool) :
    Spells (limit + 1) decodeComponentOptions (objectText (remaining removed o.members))
      (o.reset removed) := by
  have fields := spells_remaining "struct ComponentOptions" (@spellsFields_component limit o)
    (by decide) (by simp [componentFields]) removed
  exact fields.bind rfl

theorem spells_settings {s : Settings} (word : s.writer.indentSpaces < wordLimit)
    (removed : String → Bool) :
    Spells (limit + 2) decodeSettings (s.remainingText removed).toList (s.reset removed) := by
  have fields : SpellsFields (limit + 1) settingsFields
      [("writer", objectText (remaining removed s.writer.members)),
        ("component", objectText (remaining removed s.component.members))]
      (s.writer.reset removed, s.component.reset removed, ()) :=
    .present (spells_writer word removed) (.present (spells_component s.component removed) .nil)
  have whole := spells_remaining "struct Settings" fields (by decide) (by simp [settingsFields]) removed
  rw [Settings.remainingText, String.toList_ofList]
  exact whole.bind rfl

end Groups

/-! ## Texts -/

/-- The options of a group are no lists. -/
theorem nests_members (s : Settings) : ∀ m ∈ s.writer.members ++ s.component.members, Nests m.2 0 := by
  have number := nests_of_writesNumeral (writes_naturalNumeral s.writer.indentSpaces)
  simp only [WriterOptions.members, ComponentOptions.members, List.forall_mem_append,
    List.forall_mem_cons]
  exact ⟨⟨number, nests_boolText _, nests_quoted _, nests_quoted _, List.forall_mem_nil _⟩,
    nests_quoted _, nests_quoted _, nests_boolText _, List.forall_mem_nil _⟩

theorem nesting_remainingText (s : Settings) (removed : String → Bool) :
    nesting (s.remainingText removed).toList ≤ 2 := by
  have options := List.forall_mem_append.mp (nests_members s)
  have group {members : List (String × List Char)} (plain : ∀ m ∈ members, Nests m.2 0) :
      IsClosed (objectText (remaining removed members)) ∧
        nesting (objectText (remaining removed members)) ≤ 1 := by
    have closed : ∀ m ∈ remaining removed members, IsClosed m.2 :=
      forall_mem_remaining fun m hm => (plain m hm).isClosed
    exact ⟨(nests_objectText closed).1, nesting_objectText_le closed
      (forall_mem_remaining fun m hm => (plain m hm).nesting_eq.le)⟩
  have groups : ∀ m ∈ [("writer", objectText (remaining removed s.writer.members)),
      ("component", objectText (remaining removed s.component.members))],
      IsClosed m.2 ∧ nesting m.2 ≤ 1 :=
    List.forall_mem_cons.mpr ⟨group options.1, List.forall_mem_singleton.mpr (group options.2)⟩
  rw [Settings.remainingText, String.toList_ofList]
  exact nesting_objectText_le (forall_mem_remaining fun m hm => (groups m hm).1)
    (forall_mem_remaining fun m hm => (groups m hm).2)

/-- Partial settings are the settings with defaults filled in. Whatever members are removed from the text
of settings, groups or options in either group, the text that remains is read as the settings with exactly
these fields back at their defaults; so the whole text is read as the settings themselves. -/
theorem parse_remainingText (s : Settings) (word : s.writer.indentSpaces < wordLimit) :
    (∀ removed : String → Bool, Settings.parse (s.remainingText removed) = .ok (s.reset removed)) ∧
      Settings.parse s.toJson = .ok s := by
  have read (removed : String → Bool) :
      Settings.parse (s.remainingText removed) = .ok (s.reset removed) := by
    have shallow : nesting (s.remainingText removed).toList < nestingLimit :=
      lt_of_le_of_lt (nesting_remainingText s removed) (by decide)
    have parsed := decodeText_of_spells (spells_settings word removed) shallow
    rwa [String.ofList_toList] at parsed
  have whole := read fun _ => false
  rw [s.remainingText_none, s.reset_none] at whole
  exact ⟨read, whole⟩

/-- Settings that differ from the defaults in every option. -/
def Settings.wide : Settings :=
  { writer := { indentSpaces := 4, useTabs := true, quoteStyle := .double, lineEnd := .crlf }
    component := { exportStyle := .default, stylePrefix := "look", rowFromLayout := false } }

def twoOptions (name : String) : Bool := name = "useTabs" || name = "stylePrefix"

/-- The settings are read without two of their options, and as a whole. -/
theorem parse_wide :
    Settings.wide.writer.indentSpaces < wordLimit ∧
      Settings.parse (Settings.wide.remainingText twoOptions)
        = .ok { writer := { indentSpaces := 4, quoteStyle := .double, lineEnd := .crlf }
                component := { exportStyle := .default, rowFromLayout := false } } ∧
      Settings.parse Settings.wide.toJson = .ok Settings.wide := by
  have word : Settings.wide.writer.indentSpaces < wordLimit := by decide
  obtain ⟨remaining, whole⟩ := parse_remainingText Settings.wide word
  exact ⟨word, remaining twoOptions, whole⟩

end Viewsmith
