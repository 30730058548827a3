import Mathlib.Data.List.Basic
import Viewsmith.Proofs.Json.Completeness

/-!
# What is read is written

What the reader takes for a value that can be passed over is a text of that value
(`exists_writes_of_readValue`). The induction is on the fuel of the reader, for values, items and
members at once (`readsWritten`): a reader with one more unit of fuel reads one entry, and the entries
after it with the fuel that it had.
-/

namespace Viewsmith.Json

/-! ## Steps -/

section Steps

variable {close : Char} {text rest entry : List Char} {ending : Ending}

theorem firstStep_eq_close (closed : firstStep close text = .close rest) :
    ∃ blanks, Blanks blanks ∧ text = blanks ++ close :: rest := by
  obtain ⟨blanks, blank, shape⟩ := exists_blanks text
  refine ⟨blanks, blank, ?_⟩
  rw [firstStep] at closed
  cases left : skipBlanks text with
  | nil =>
      rw [left] at closed
      cases closed
  | cons c more =>
      rw [left] at closed shape
      simp only at closed
      split at closed
      · rename_i same
        rw [shape, same, Step.close.inj closed]
      · cases closed

theorem firstStep_eq_entry (first : firstStep close text = .entry entry) :
    ∃ blanks, Blanks blanks ∧ text = blanks ++ entry := by
  obtain ⟨blanks, blank, shape⟩ := exists_blanks text
  refine ⟨blanks, blank, ?_⟩
  rw [firstStep] at first
  cases left : skipBlanks text with
  | nil =>
      rw [left] at first
      cases first
  | cons c more =>
      rw [left] at first shape
      simp only at first
      split at first
      · cases first
      · rw [shape, Step.entry.inj first]

theorem firstStep_ne_closed : firstStep close text ≠ .stop .closed := by
  unfold firstStep
  split
  · simp
  · split <;> simp

theorem nextStep_eq_close (closed : nextStep close text = .close rest) :
    ∃ blanks, Blanks blanks ∧ text = blanks ++ close :: rest := by
  obtain ⟨blanks, blank, shape⟩ := exists_blanks text
  refine ⟨blanks, blank, ?_⟩
  rw [nextStep] at closed
  cases left : skipBlanks text with
  | nil =>
      rw [left] at closed
      cases closed
  | cons c more =>
      rw [left] at closed shape
      simp only at closed
      split at closed
      · rename_i same
        rw [shape, same, Step.close.inj closed]
      · split at closed
        · split at closed
          · cases closed
          · split at closed <;> cases closed
        · cases closed

theorem nextStep_eq_entry (next : nextStep close text = .entry entry) :
    ∃ blanks more, Blanks blanks ∧ Blanks more ∧ text = blanks ++ ',' :: (more ++ entry) := by
  obtain ⟨blanks, blank, shape⟩ := exists_blanks text
  rw [nextStep] at next
  cases left : skipBlanks text with
  | nil =>
      rw [left] at next
      cases next
  | cons c others =>
      rw [left] at next shape
      simp only at next
      split at next
      · cases next
      · split at next
        · rename_i comma
          obtain ⟨more, blank', shape'⟩ := exists_blanks others
          refine ⟨blanks, more, blank, blank', ?_⟩
          cases left' : skipBlanks others with
          | nil =>
              rw [left'] at next
              cases next
          | cons d later =>
              rw [left'] at next shape'
              simp only at next
              split at next
              · cases next
              · rw [shape, comma, shape', Step.entry.inj next]
        · cases next

theorem nextStep_ne_closed : nextStep close text ≠ .stop .closed := by
  unfold nextStep
  split
  · simp
  · split
    · simp
    · split
      · split
        · simp
        · split <;> simp
      · simp

end Steps

/-- Whether every value that is read without a fault with so much fuel is written by what was read. -/
def ReadsWritten (fuel : Nat) : Prop :=
  ∀ {text : List Char} {v : Value} {r : Option (List Char)}, readValue fuel text = (v, r) →
    v.skip = .ok () → ∃ before inside rest, text = before ++ (inside ++ rest) ∧ r = some rest ∧
      Blanks before ∧ Writes v inside

theorem scanWord_eq {v w : Value} {r : Option (List Char)} (intact : w.skip = .ok ()) :
    ∀ {word text : List Char}, scanWord v word text = (w, r) →
      w = v ∧ ∃ rest, text = word ++ rest ∧ r = some rest
  | [], text, read => by
      rw [scanWord, Prod.mk.injEq] at read
      exact ⟨read.1.symm, text, rfl, read.2.symm⟩
  | c :: word, [], read => by
      rw [scanWord, Prod.mk.injEq] at read
      rw [← read.1] at intact
      cases intact
  | c :: word, d :: text, read => by
      rw [scanWord] at read
      split at read
      · rename_i same
        obtain ⟨rfl, rest, rfl, rfl⟩ := scanWord_eq intact read
        exact ⟨rfl, rest, by rw [same]; rfl, rfl⟩
      · rw [Prod.mk.injEq] at read
        rw [← read.1] at intact
        cases intact

/-- Whether entries that are read to their closing bracket are written by what was read. -/
def ReadsWrittenList {α : Type} (close : Char)
    (read : Nat → Step → List α × Ending × Option (List Char)) (intact : α → Prop)
    (written : α → List Char → Prop) (fuel : Nat) : Prop :=
  ∀ {text : List Char} {xs : List α} {r : Option (List Char)},
    read fuel (.entry text) = (xs, .closed, r) → (∀ x ∈ xs, intact x) →
      ∃ inside rest, text = inside ++ close :: rest ∧ r = some rest ∧ xs ≠ [] ∧
        WritesList written xs inside

section Lists

variable {α : Type} {close : Char} {read : Nat → Step → List α × Ending × Option (List Char)}
  {intact : α → Prop} {written : α → List Char → Prop} {fuel : Nat}

/-- What follows an entry is the closing bracket, or a comma and the other entries. -/
theorem ReadsWrittenList.after (entries : ReadsWrittenList close read intact written fuel)
    (reader : ReadsLists close read) {x : α} {others : List α} {front text left : List Char}
    {r : Option (List Char)} (blank : Blanks front) (first : written x text)
    (later : read fuel (nextStep close left) = (others, .closed, r)) (sound : ∀ y ∈ others, intact y) :
    ∃ inside rest, front ++ (text ++ left) = inside ++ close :: rest ∧ r = some rest ∧
      x :: others ≠ [] ∧ WritesList written (x :: others) inside := by
  cases step : nextStep close left with
  | close after =>
      rw [step, reader.closes] at later
      cases later
      obtain ⟨blanks, back, rfl⟩ := nextStep_eq_close step
      exact ⟨front ++ (text ++ blanks), after, by simp, rfl, by simp, .last blank first back⟩
  | entry after =>
      rw [step] at later
      obtain ⟨blanks, more, back, between, rfl⟩ := nextStep_eq_entry step
      obtain ⟨inside, rest, rfl, rfl, nonempty, writes⟩ := entries later sound
      obtain ⟨y, row, rfl⟩ := List.exists_cons_of_ne_nil nonempty
      exact ⟨front ++ (text ++ (blanks ++ ',' :: (more ++ inside))), rest, by simp, rfl, by simp,
        .more blank first back (writes.padded between)⟩
  | stop ending =>
      rw [step, reader.stops] at later
      cases later
      exact absurd step nextStep_ne_closed

/-- A list that is read to its closing bracket is written by what was read. -/
theorem ReadsWrittenList.list (entries : ReadsWrittenList close read intact written fuel)
    (reader : ReadsLists close read) {text : List Char} {xs : List α} {r : Option (List Char)}
    (list : read fuel (firstStep close text) = (xs, .closed, r)) (sound : ∀ x ∈ xs, intact x) :
    ∃ inside rest, text = inside ++ close :: rest ∧ r = some rest ∧ WritesList written xs inside := by
  cases step : firstStep close text with
  | close after =>
      rw [step, reader.closes] at list
      cases list
      obtain ⟨blanks, blank, rfl⟩ := firstStep_eq_close step
      exact ⟨blanks, after, rfl, rfl, .none blank⟩
  | entry after =>
      rw [step] at list
      obtain ⟨blanks, blank, rfl⟩ := firstStep_eq_entry step
      obtain ⟨inside, rest, rfl, rfl, -, writes⟩ := entries list sound
      exact ⟨blanks ++ inside, rest, by simp, rfl, writes.padded blank⟩
  | stop ending =>
      rw [step, reader.stops] at list
      cases list
      exact absurd step firstStep_ne_closed

end Lists

def ReadsWrittenItems (fuel : Nat) : Prop :=
  ReadsWrittenList ']' readItems (fun v => v.skip = .ok ()) Writes fuel

def ReadsWrittenMembers (fuel : Nat) : Prop :=
  ReadsWrittenList '}' readMembers (fun m => m.1.skip = .ok () ∧ m.2.skip = .ok ())
    (WritesMember Writes) fuel

theorem ReadsWrittenItems.succ {fuel : Nat} (values : ReadsWritten fuel)
    (entries : ReadsWrittenItems fuel) : ReadsWrittenItems (fuel + 1) := by
  intro text items r read intact
  rw [readItems] at read
  rcases first : readValue fuel text with ⟨v, left⟩
  rw [first] at read
  cases left with
  | none => cases read
  | some left =>
      rcases later : readItems fuel (nextStep ']' left) with ⟨others, ending, r'⟩
      simp only [later, Prod.mk.injEq] at read
      obtain ⟨rfl, rfl, rfl⟩ := read
      rw [List.forall_mem_cons] at intact
      obtain ⟨before, inside, rest, rfl, same, front, writes⟩ := values first intact.1
      cases same
      exact entries.after readsLists_items front writes later intact.2

theorem ReadsWrittenMembers.succ {fuel : Nat} (values : ReadsWritten fuel)
    (entries : ReadsWrittenMembers fuel) : ReadsWrittenMembers (fuel + 1) := by
  intro text members r read intact
  rw [readMembers.eq_def] at read
  simp only at read
  split at read
  case h_2 => cases read
  case h_1 body =>
    rcases scanned : scanString body with ⟨key, left⟩
    simp only [scanned] at read
    split at read
    case isTrue => cases read
    case isFalse unbroken =>
      have sound : key.fault = none := by simpa using unbroken
      split at read
      case h_1 => cases read
      case h_3 => cases read
      case h_2 after colon =>
        rcases first : readValue fuel after with ⟨v, left'⟩
        rw [first] at read
        cases left' with
        | none => cases read
        | some left' =>
            rcases later : readMembers fuel (nextStep '}' left') with ⟨others, ending, r'⟩
            simp only [later, Prod.mk.injEq] at read
            obtain ⟨rfl, rfl, rfl⟩ := read
            rw [List.forall_mem_cons] at intact
            obtain ⟨literal, shape, name⟩ := writesString_of_scanString scanned sound
            obtain ⟨gap, blank, tail⟩ := exists_blanks left
            rw [colon] at tail
            subst tail
            obtain ⟨front, inside, rest, rfl, same, blank', writes⟩ := values first intact.1.2
            cases same
            have member : WritesMember Writes (key, v)
                (literal ++ (gap ++ ':' :: (front ++ inside))) := .mk name blank blank' writes
            have whole : '"' :: body
                = [] ++ ((literal ++ (gap ++ ':' :: (front ++ inside))) ++ left') := by
              rw [shape]
              simp
            rw [whole]
            exact entries.after readsLists_members blanks_nil member later intact.2

theorem ReadsWritten.succ {fuel : Nat} (items : ReadsWrittenItems fuel)
    (members : ReadsWrittenMembers fuel) : ReadsWritten (fuel + 1) := by
  intro text v r read intact
  obtain ⟨before, blank, shape⟩ := exists_blanks text
  suffices taken : ∃ inside rest, skipBlanks text = inside ++ rest ∧ r = some rest ∧ Writes v inside by
    obtain ⟨inside, rest, left, same, writes⟩ := taken
    exact ⟨before, inside, rest, by rw [← left]; exact shape, same, blank, writes⟩
  rw [readValue] at read
  split at read
  case h_1 left =>
    cases read
    cases intact
  case h_2 rest left =>
    obtain ⟨rfl, after, rfl, rfl⟩ := scanWord_eq intact read
    exact ⟨"null".toList, after, left, rfl, .null⟩
  case h_3 rest left =>
    obtain ⟨rfl, after, rfl, rfl⟩ := scanWord_eq intact read
    exact ⟨boolText true, after, left, rfl, .bool true⟩
  case h_4 rest left =>
    obtain ⟨rfl, after, rfl, rfl⟩ := scanWord_eq intact read
    exact ⟨boolText false, after, left, rfl, .bool false⟩
  case h_5 rest left =>
    rcases scanned : scanString rest with ⟨lexeme, after⟩
    simp only [scanned, Prod.mk.injEq] at read
    obtain ⟨rfl, same⟩ := read
    have sound := skip_eq_ok.mp intact
    obtain ⟨literal, whole, writes⟩ := writesString_of_scanString scanned sound
    rw [sound] at same
    exact ⟨literal, after, left.trans whole, same.symm, .string writes⟩
  case h_6 rest left =>
    rcases list : readItems fuel (firstStep ']' rest) with ⟨entries, ending, r'⟩
    simp only [list, Prod.mk.injEq] at read
    obtain ⟨rfl, rfl⟩ := read
    obtain ⟨sound, rfl⟩ := skip_array.mp intact
    obtain ⟨inside, after, rfl, rfl, writes⟩ := items.list readsLists_items list sound
    exact ⟨_, after, by rw [left]; simp, rfl, .array writes⟩
  case h_7 rest left =>
    rcases list : readMembers fuel (firstStep '}' rest) with ⟨entries, ending, r'⟩
    simp only [list, Prod.mk.injEq] at read
    obtain ⟨rfl, rfl⟩ := read
    obtain ⟨sound, rfl⟩ := skip_object.mp intact
    obtain ⟨inside, after, rfl, rfl, writes⟩ := members.list readsLists_members list sound
    exact ⟨_, after, by rw [left]; simp, rfl, .object writes⟩
  case h_8 c rest _ _ _ _ _ _ left =>
    split at read
    · cases scanned : scanNumeral (c :: rest) with
      | read numeral after =>
          rw [scanned] at read
          cases read
          obtain ⟨text, whole, writes⟩ := writes_of_scanNumeral scanned
          exact ⟨text, after, left.trans whole, rfl, .number writes⟩
      | malformed =>
          rw [scanned] at read
          cases read
          cases intact
      | cut =>
          rw [scanned] at read
          cases read
          cases intact
    · cases read
      cases intact

theorem readsWritten (fuel : Nat) :
    ReadsWritten fuel ∧ ReadsWrittenItems fuel ∧ ReadsWrittenMembers fuel := by
  induction fuel with
  | zero =>
      refine ⟨?_, ?_, ?_⟩
      · intro text v r read intact
        rw [readValue] at read
        cases read
        cases intact
      · intro text items r read
        rw [readItems] at read
        cases read
      · intro text members r read
        rw [readMembers] at read
        cases read
  | succ fuel ih =>
      obtain ⟨values, items, members⟩ := ih
      exact ⟨ReadsWritten.succ items members, ReadsWrittenItems.succ values items,
        ReadsWrittenMembers.succ values members⟩

/-- What is read as a value without a fault is the text of that value, after blanks. -/
theorem exists_writes_of_readValue {fuel : Nat} {text : List Char} {v : Value}
    {r : Option (List Char)} (read : readValue fuel text = (v, r)) (intact : v.skip = .ok ()) :
    ∃ before inside rest, text = before ++ (inside ++ rest) ∧ r = some rest ∧ Blanks before ∧
      Writes v inside :=
  (readsWritten fuel).1 read intact

/-! ## Documents -/

theorem checkEnd_eq_ok {rest : List Char} : checkEnd (some rest) = .ok () ↔ Blanks rest := by
  rw [checkEnd, Option.getD_some, ← skipBlanks_eq_nil, ← List.isEmpty_iff]
  split <;> simp [*]

/-- A text is decoded if and only if it is a document of a value that is decoded. -/
theorem decodeText_eq_ok {α : Type} {decode : Decoder α} (intact : Intact decode) {text : String}
    {x : α} :
    decodeText decode text = .ok x ↔
      ∃ v, IsDocument v text.toList ∧ decode nestingLimit v = .ok x := by
  have steps : decodeText decode text = .ok x ↔
      decode nestingLimit (readPrefixValue text.toList).1 = .ok x ∧
        checkEnd (readPrefixValue text.toList).2 = .ok () := by
    simp only [decodeText, bind_eq_ok, liftFault_eq_ok]
    constructor
    · rintro ⟨y, decoded, _, ends, same⟩
      cases same
      exact ⟨decoded, ends⟩
    · rintro ⟨decoded, ends⟩
      exact ⟨x, decoded, (), ends, rfl⟩
  rw [steps]
  constructor
  · rintro ⟨decoded, ends⟩
    rcases read : readPrefixValue text.toList with ⟨v, left⟩
    rw [read] at decoded ends
    obtain ⟨before, inside, rest, shape, rfl, front, writes⟩ :=
      exists_writes_of_readValue read (intact decoded)
    exact ⟨v, ⟨before, inside, rest, shape, front, checkEnd_eq_ok.mp ends, writes⟩, decoded⟩
  · rintro ⟨v, document, decoded⟩
    obtain ⟨rest, read, blank⟩ := readPrefixValue_of_isDocument document
    rw [read]
    exact ⟨decoded, checkEnd_eq_ok.mpr blank⟩

end Viewsmith.Json
