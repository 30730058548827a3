import Mathlib.Data.List.Forall2
import Viewsmith.Proofs.Json.Numerals
import Viewsmith.Proofs.Json.StringLiterals

/-!
# Reading what was written

A text reads as a value if the reader takes that value off the text and leaves whatever comes after
it (`Reads`). String literals and numerals do, and so do the arrays and objects that are written from
texts that do (`reads_arrayText`, `reads_objectText`). The entries of a list are read one at a time
(`ReadsEntry`), and what stands between the brackets is read by one reader for arrays and one for
objects (`ReadsInside`). The fuel that a text needs is bounded by its length.
-/

namespace Viewsmith.Json

/-! ## Blanks -/

theorem skipBlanks_append {blanks : List Char} (h : Blanks blanks) (text : List Char) :
    skipBlanks (blanks ++ text) = skipBlanks text := by
  induction blanks with
  | nil => rfl
  | cons c rest ih =>
      rw [Blanks, List.forall_mem_cons] at h
      rw [List.cons_append, skipBlanks, List.dropWhile_cons_of_pos h.1]
      exact ih h.2

theorem skipBlanks_eq_nil {text : List Char} : skipBlanks text = [] ↔ Blanks text := by
  rw [skipBlanks, List.dropWhile_eq_nil_iff, Blanks]

/-- What is left after the blanks of a text, and the blanks. -/
theorem exists_blanks (text : List Char) :
    ∃ blanks, Blanks blanks ∧ text = blanks ++ skipBlanks text :=
  ⟨text.takeWhile isBlank, fun _ hc => List.mem_takeWhile_imp hc,
    List.takeWhile_append_dropWhile.symm⟩

theorem endsNumeral_nil : EndsNumeral [] := by
  intro c first
  cases first

theorem endsNumeral_blanks {blanks rest : List Char} (h : Blanks blanks)
    (ends : EndsNumeral rest) : EndsNumeral (blanks ++ rest) := by
  apply forall_head?_append _ ends
  intro c first
  have blank := h c (List.mem_of_mem_head? first)
  simp only [isBlank, Bool.or_eq_true, decide_eq_true_eq] at blank
  rcases blank with ((rfl | rfl) | rfl) | rfl <;> decide

/-! ## What begins an entry -/

def isEntryStart (c : Char) : Bool := !isBlank c && c ≠ ']' && c ≠ '}'

def StartsEntry (text : List Char) : Prop := ∃ c more, text = c :: more ∧ isEntryStart c = true

/-- Whether a text is read as a value, whatever comes after it that does not go on like a numeral. -/
structure Reads (text : List Char) (v : Value) : Prop where
  start : StartsEntry text
  read : ∀ (fuel : Nat) (rest : List Char), 2 * text.length ≤ fuel → EndsNumeral rest →
    readValue fuel (text ++ rest) = (v, some rest)

def ReadsMember (m : String × List Char) (w : Lexeme × Value) : Prop :=
  w.1 = lexemeOf m.1 ∧ Reads m.2 w.2

/-! ## Scalars -/

theorem skipBlanks_of_isEntryStart {c : Char} (start : isEntryStart c = true) (rest : List Char) :
    skipBlanks (c :: rest) = c :: rest := by
  have visible : isBlank c = false := by
    simp only [isEntryStart, Bool.and_eq_true, Bool.not_eq_true'] at start
    exact start.1.1
  rw [skipBlanks, List.dropWhile_cons_of_neg (by simp [visible])]

theorem reads_string {l : Lexeme} {text : List Char} (h : WritesString l text) :
    Reads text (.string l) := by
  cases h with
  | mk inside =>
      refine ⟨⟨'"', _, rfl, by decide⟩, fun fuel rest enough _ => ?_⟩
      obtain ⟨fuel, rfl⟩ : ∃ f, fuel = f + 1 :=
        Nat.exists_eq_add_one.mpr (lt_of_lt_of_le (by simp) enough)
      rw [List.cons_append, List.append_assoc, List.singleton_append, readValue,
        skipBlanks_of_isEntryStart (by decide)]
      simp only [scanString_of_writesPieces inside]
      rfl

theorem reads_quoted (text : String) : Reads (quoted text) (.string (lexemeOf text)) :=
  reads_string (writesString_quoted text)

theorem isEntryStart_of_startsNumeral {c : Char} (first : startsNumeral c = true) :
    isEntryStart c = true := by
  have other : c ∉ [' ', '\n', '\t', '\r', ']', '}'] := notMem_of_all_not (by decide) first
  simp only [List.mem_cons, List.not_mem_nil, or_false, not_or] at other
  simp [isEntryStart, isBlank, other]

/-- What a numeral begins with begins no other value. -/
theorem readValue_numeral {c : Char} (first : startsNumeral c = true) {more after : List Char}
    {n : Numeral} (read : scanNumeral (c :: more) = .read n after) (fuel : Nat) :
    readValue (fuel + 1) (c :: more) = (.number n, some after) := by
  have other : c ∉ ['n', 't', 'f', '"', '[', '{'] := notMem_of_all_not (by decide) first
  simp only [List.mem_cons, List.not_mem_nil, or_false, not_or] at other
  rw [readValue, skipBlanks_of_isEntryStart (isEntryStart_of_startsNumeral first)]
  rw [startsNumeral, Bool.or_eq_true, decide_eq_true_iff] at first
  simp [other, first, read]

theorem reads_numeral {text : List Char} {n : Numeral} (h : WritesNumeral n text) :
    Reads text (.number n) := by
  obtain ⟨c, more, rfl, first⟩ := head_of_writesNumeral h
  refine ⟨⟨c, more, rfl, isEntryStart_of_startsNumeral first⟩, fun fuel rest enough ends => ?_⟩
  rw [List.length_cons] at enough
  obtain ⟨fuel, rfl⟩ : ∃ f, fuel = f + 1 := Nat.exists_eq_add_one.mpr (by omega)
  exact readValue_numeral first (scanNumeral_of_writes h ends) fuel

/-! ## Lists -/

section Steps

variable {close : Char} {blanks text entry : List Char}

theorem firstStep_close (bracket : close = ']' ∨ close = '}') (rest : List Char) :
    firstStep close (close :: rest) = .close rest := by
  rcases bracket with rfl | rfl <;> rfl

theorem nextStep_close (bracket : close = ']' ∨ close = '}') (rest : List Char) :
    nextStep close (close :: rest) = .close rest := by
  rcases bracket with rfl | rfl <;> rfl

theorem ne_of_isEntryStart {c : Char} (bracket : close = ']' ∨ close = '}')
    (start : isEntryStart c = true) : c ≠ close := by
  rintro rfl
  rcases bracket with rfl | rfl <;> cases start

theorem firstStep_entry (bracket : close = ']' ∨ close = '}') {entry : List Char}
    (start : StartsEntry entry) (rest : List Char) :
    firstStep close (entry ++ rest) = .entry (entry ++ rest) := by
  obtain ⟨c, more, rfl, start⟩ := start
  rw [List.cons_append, firstStep, skipBlanks_of_isEntryStart start]
  exact if_neg (ne_of_isEntryStart bracket start)

theorem firstStep_blanks (blank : Blanks blanks) (text : List Char) :
    firstStep close (blanks ++ text) = firstStep close text := by
  rw [firstStep, skipBlanks_append blank, firstStep]

theorem nextStep_blanks (blank : Blanks blanks) (text : List Char) :
    nextStep close (blanks ++ text) = nextStep close text := by
  rw [nextStep, skipBlanks_append blank, nextStep]

/-- A comma leads to what could come first. -/
theorem nextStep_comma (bracket : close = ']' ∨ close = '}')
    (first : firstStep close text = .entry entry) : nextStep close (',' :: text) = .entry entry := by
  have comma : ',' ≠ close := by rcases bracket with rfl | rfl <;> decide
  rw [nextStep, skipBlanks_of_isEntryStart (by decide)]
  simp only [if_neg comma, if_pos]
  rw [firstStep] at first
  cases shape : skipBlanks text with
  | nil =>
      rw [shape] at first
      cases first
  | cons d more =>
      rw [shape] at first
      simp only at first ⊢
      split at first
      · cases first
      · rename_i other
        rw [if_neg other]
        exact first

theorem endsNumeral_close (bracket : close = ']' ∨ close = '}') (rest : List Char) :
    EndsNumeral (close :: rest) := by
  rcases bracket with rfl | rfl <;> exact .of_head (by decide) rest

end Steps

/-- Whether a reader reads what stands between brackets: it stops at the closing one, and where no
entry follows. -/
structure ReadsLists {α : Type} (close : Char)
    (read : Nat → Step → List α × Ending × Option (List Char)) : Prop where
  bracket : close = ']' ∨ close = '}'
  closes : ∀ fuel rest, read fuel (.close rest) = ([], .closed, some rest)
  stops : ∀ fuel ending, read fuel (.stop ending) = ([], ending, none)

theorem readsLists_items : ReadsLists ']' readItems :=
  ⟨.inl rfl, fun _ _ => by rw [readItems], fun _ _ => by rw [readItems]⟩

theorem readsLists_members : ReadsLists '}' readMembers :=
  ⟨.inr rfl, fun _ _ => by rw [readMembers], fun _ _ => by rw [readMembers]⟩

/-- Whether a text is read as what stands between the brackets of a list, by a reader that is given what
follows the opening bracket. -/
structure ReadsInside {α : Type} (close : Char)
    (read : Nat → Step → List α × Ending × Option (List Char)) (text : List Char)
    (entries : List α) : Prop where
  start : entries ≠ [] → ∃ blanks entry, Blanks blanks ∧ StartsEntry entry ∧ text = blanks ++ entry
  read : ∀ (fuel : Nat) (rest : List Char), 2 * text.length + 2 ≤ fuel →
    read fuel (firstStep close (text ++ close :: rest)) = (entries, .closed, some rest)

/-- Whether an entry is read off a text, which leaves what follows to the reader of the entries. -/
structure ReadsEntry {α : Type} (close : Char)
    (read : Nat → Step → List α × Ending × Option (List Char)) (text : List Char) (x : α) : Prop where
  start : StartsEntry text
  read : ∀ (fuel : Nat) (tail : List Char), 2 * text.length ≤ fuel → EndsNumeral tail →
    read (fuel + 1) (.entry (text ++ tail))
      = (x :: (read fuel (nextStep close tail)).1, (read fuel (nextStep close tail)).2)

section Inside

variable {α : Type} {close : Char} {read : Nat → Step → List α × Ending × Option (List Char)}
  {x y : α} {rest : List α} {before text after others : List Char}

theorem ReadsLists.none (reader : ReadsLists close read) {blanks : List Char}
    (blank : Blanks blanks) : ReadsInside close read blanks [] where
  start := fun nonempty => absurd rfl nonempty
  read := by
    intro fuel rest _
    rw [firstStep_blanks blank, firstStep_close reader.bracket, reader.closes]

theorem ReadsEntry.last (entry : ReadsEntry close read text x) (reader : ReadsLists close read)
    (front : Blanks before) (back : Blanks after) :
    ReadsInside close read (before ++ (text ++ after)) [x] where
  start := fun _ => by
    obtain ⟨c, more, shape, start⟩ := entry.start
    exact ⟨before, text ++ after, front, ⟨c, more ++ after, by rw [shape, List.cons_append], start⟩, rfl⟩
  read := by
    intro fuel rest enough
    simp only [List.length_append] at enough
    obtain ⟨fuel, rfl⟩ : ∃ f, fuel = f + 1 := Nat.exists_eq_add_one.mpr (by omega)
    rw [List.append_assoc, List.append_assoc, firstStep_blanks front,
      firstStep_entry reader.bracket entry.start, entry.read fuel _ (by omega)
        (endsNumeral_blanks back (endsNumeral_close reader.bracket rest)),
      nextStep_blanks back, nextStep_close reader.bracket, reader.closes]

theorem ReadsEntry.more (entry : ReadsEntry close read text x) (reader : ReadsLists close read)
    (front : Blanks before) (back : Blanks after)
    (later : ReadsInside close read others (y :: rest)) :
    ReadsInside close read (before ++ (text ++ (after ++ ',' :: others))) (x :: y :: rest) where
  start := fun _ => by
    obtain ⟨c, more, shape, start⟩ := entry.start
    exact ⟨before, _, front, ⟨c, more ++ _, by rw [shape, List.cons_append], start⟩, rfl⟩
  read := by
    intro fuel rest enough
    simp only [List.length_append, List.length_cons] at enough
    obtain ⟨fuel, rfl⟩ : ∃ f, fuel = f + 1 := Nat.exists_eq_add_one.mpr (by omega)
    obtain ⟨blanks, next, blank, start, shape⟩ := later.start (by simp)
    -- After the comma the reader is where it would be if the other entries stood alone.
    have alone : nextStep close (',' :: (others ++ close :: rest))
        = firstStep close (others ++ close :: rest) := by
      have first : firstStep close (others ++ close :: rest) = .entry (next ++ close :: rest) := by
        rw [shape, List.append_assoc, firstStep_blanks blank, firstStep_entry reader.bracket start]
      rw [nextStep_comma reader.bracket first, first]
    simp only [List.append_assoc, List.cons_append]
    rw [firstStep_blanks front, firstStep_entry reader.bracket entry.start, entry.read fuel _ (by omega)
        (endsNumeral_blanks back (.of_head (by decide) _)),
      nextStep_blanks back, alone, later.read fuel rest (by omega)]

/-- Entries that are read, with commas between them, are read one after the other. -/
theorem ReadsLists.intercalate (reader : ReadsLists close read) {texts : List (List Char)}
    {xs : List α} (entries : List.Forall₂ (ReadsEntry close read) texts xs) :
    ReadsInside close read ([','].intercalate texts) xs := by
  induction entries with
  | nil => exact reader.none blanks_nil
  | @cons text x texts xs first others ih =>
      cases others with
      | nil =>
          rw [List.intercalate_singleton]
          have last := first.last reader blanks_nil blanks_nil
          rwa [List.nil_append, List.append_nil] at last
      | cons next later =>
          rw [List.intercalate_cons_cons, List.append_assoc]
          exact first.more reader blanks_nil blanks_nil ih

end Inside

/-! ## Arrays -/

theorem Reads.entry {text : List Char} {v : Value} (h : Reads text v) :
    ReadsEntry ']' readItems text v where
  start := h.start
  read := by
    intro fuel tail enough ends
    rw [readItems, h.read fuel tail enough ends]

/-- A list of entries that are read, between its brackets, is read. -/
theorem ReadsInside.array {inside : List Char} {items : List Value}
    (h : ReadsInside ']' readItems inside items) :
    Reads ('[' :: (inside ++ [']'])) (.array items .closed) where
  start := ⟨'[', _, rfl, by decide⟩
  read := by
    intro fuel rest enough _
    simp only [List.length_append, List.length_cons] at enough
    obtain ⟨fuel, rfl⟩ : ∃ f, fuel = f + 1 := Nat.exists_eq_add_one.mpr (by omega)
    rw [List.cons_append, List.append_assoc, List.singleton_append, readValue,
      skipBlanks_of_isEntryStart (by decide)]
    simp only [h.read fuel rest (by omega)]

/-- An array that is written from the texts of values is read as the array of the values. -/
theorem reads_arrayText {texts : List (List Char)} {values : List Value}
    (reads : List.Forall₂ Reads texts values) : Reads (arrayText texts) (.array values .closed) :=
  (readsLists_items.intercalate (reads.imp fun _ _ first => first.entry)).array

/-! ## Objects -/

theorem readValue_blanks {blanks : List Char} (blank : Blanks blanks) (fuel : Nat)
    (text : List Char) : readValue fuel (blanks ++ text) = readValue fuel text := by
  cases fuel with
  | zero => rfl
  | succ fuel => rw [readValue, skipBlanks_append blank, readValue]

/-- A member is read: its key, the colon, and its value. -/
theorem Reads.member {key : Lexeme} {v : Value} {literal before after text : List Char}
    (name : WritesString key literal) (front : Blanks before) (back : Blanks after)
    (entry : Reads text v) :
    ReadsEntry '}' readMembers (literal ++ (before ++ ':' :: (after ++ text))) (key, v) := by
  cases name with
  | mk inside =>
      refine ⟨⟨'"', _, rfl, by decide⟩, fun fuel tail enough ends => ?_⟩
      simp only [List.length_append, List.length_cons] at enough
      simp only [List.cons_append, List.append_assoc, List.nil_append]
      rw [readMembers, scanString_of_writesPieces inside]
      simp only [Option.isSome_none]
      rw [skipBlanks_append front, skipBlanks_of_isEntryStart (by decide)]
      simp only [readValue_blanks back, entry.read fuel tail (by omega) ends]
      rfl

theorem ReadsInside.object{inside : List Char} {members : List (Lexeme × Value)}
    (h : ReadsInside '}' readMembers inside members) :
    Reads ('{' :: (inside ++ ['}'])) (.object members .closed) where
  start := ⟨'{', _, rfl, by decide⟩
  read := by
    intro fuel rest enough _
    simp only [List.length_append, List.length_cons] at enough
    obtain ⟨fuel, rfl⟩ : ∃ f, fuel = f + 1 := Nat.exists_eq_add_one.mpr (by omega)
    rw [List.cons_append, List.append_assoc, List.singleton_append, readValue,
      skipBlanks_of_isEntryStart (by decide)]
    simp only [h.read fuel rest (by omega)]

def memberText (m : String × List Char) : List Char := quoted m.1 ++ ':' :: m.2

theorem objectText_eq (members : List (String × List Char)) :
    objectText members = bracketed '{' '}' (members.map memberText) := rfl

theorem ReadsMember.entry {m : String × List Char} {w : Lexeme × Value} (h : ReadsMember m w) :
    ReadsEntry '}' readMembers (memberText m) w := by
  obtain ⟨key, v⟩ := w
  obtain ⟨rfl, reads⟩ := h
  exact reads.member (writesString_quoted m.1) blanks_nil blanks_nil

/-- An object that is written from members is read as the object of their values, in order. -/
theorem reads_objectText {members : List (String × List Char)} {values : List (Lexeme × Value)}
    (reads : List.Forall₂ ReadsMember members values) :
    Reads (objectText members) (.object values .closed) := by
  have entries : List.Forall₂ (ReadsEntry '}' readMembers) (members.map memberText) values :=
    List.forall₂_map_left_iff.mpr (reads.imp fun _ _ first => first.entry)
  exact (readsLists_members.intercalate entries).object

end Viewsmith.Json
