import Viewsmith.Proofs.Json.Rearrangement

/-!
# Slips in records

What becomes of a record that is decoded, if one slip is made in its object: the member of a required
field is left out (`settles_leaveOut`), or a member is repeated (`settles_repeated`). The order of members
does not matter, so the member that is left out can be taken for the last one. A complaint is shown as it
is, unless it ends like a position (`withoutPosition_of_not_endsInPosition`).
-/

namespace Viewsmith.Json

section Members

variable {limit : Nat} {fs : List Field} {key : String} {v : Value} {slots whole : Slots fs}

/-- A second member of one name is refused before its value is looked at. -/
theorem read_of_taken (read : Slots.read limit key v fs slots = .ok whole)
    (known : key ∈ fs.map Field.name) (w : Value) :
    Slots.read limit key w fs whole = .error (.mismatch (.duplicateField key)) := by
  induction fs with
  | nil => cases known
  | cons f fs ih =>
      obtain ⟨slot, rest⟩ := slots
      rcases read_cons_eq_ok.mp read with ⟨rfl, -, x, -, rfl⟩ | ⟨other, mid, inner, rfl⟩
      · exact if_pos rfl
      · rw [List.map_cons, List.mem_cons] at known
        rw [read_of_other other, ih inner (known.resolve_left (Ne.symm other))]
        rfl

/-- Without the member of a required field a record is incomplete, and nothing else is missing in it. -/
theorem complete_of_missing (read : Slots.read limit key v fs slots = .ok whole)
    (known : key ∈ fs.map Field.name) (required : ∀ f ∈ fs, f.name = key → f.default? = none)
    {xs : Fields fs} (complete : whole.complete fs = .ok xs) :
    slots.complete fs = .error (.mismatch (.missingField key)) := by
  induction fs with
  | nil => cases known
  | cons f fs ih =>
      obtain ⟨slot, rest⟩ := slots
      rw [List.forall_mem_cons] at required
      rcases read_cons_eq_ok.mp read with ⟨rfl, rfl, x, -, rfl⟩ | ⟨other, mid, inner, rfl⟩
      · rw [Slots.complete, Option.none_or, required.1 rfl]
      · obtain ⟨x, ys, held, others, -⟩ := complete_cons_eq_ok.mp complete
        rw [List.map_cons, List.mem_cons] at known
        rw [Slots.complete, held]
        show (rest.complete fs >>= _) = _
        rw [ih inner (known.resolve_left (Ne.symm other)) required.2 others]
        rfl

end Members

section Records

variable {limit : Nat} {what : String} {fs : List Field} {key : Lexeme} {name : String} {v : Value}
  {before after : List (Lexeme × Value)}

/-- The member of a required field is left out. -/
theorem settles_leaveOut (spelled : key.text = .ok name) (known : name ∈ fs.map Field.name)
    (required : ∀ f ∈ fs, f.name = name → f.default? = none) :
    Settles (some (.mismatch (.missingField name))) (record what fs) limit
      (.object (before ++ (key, v) :: after) .closed) (.object (before ++ after) .closed) := by
  intro xs decoded
  obtain ⟨opened, whole, read, complete⟩ := record_object_eq_ok.mp decoded
  have last : (before ++ (key, v) :: after).Perm (before ++ after ++ [(key, v)]) :=
    List.perm_middle.trans (List.perm_append_singleton _ _).symm
  obtain ⟨slots, others, read⟩ := readAll_append_eq_ok.mp (readAll_perm last read)
  obtain ⟨_, _, spelled', read, same⟩ := readAll_cons_eq_ok.mp read
  cases spelled.symm.trans spelled'
  cases same
  rw [record_object opened, others]
  exact complete_of_missing read known required complete

/-- A member is repeated, anywhere after the first one. -/
theorem settles_repeated (spelled : key.text = .ok name) (known : name ∈ fs.map Field.name)
    {between : List (Lexeme × Value)} {key' : Lexeme} (spelled' : key'.text = .ok name) (w : Value) :
    Settles (some (.mismatch (.duplicateField name))) (record what fs) limit
      (.object (before ++ (key, v) :: (between ++ after)) .closed)
      (.object (before ++ (key, v) :: (between ++ (key', w) :: after)) .closed) := by
  intro xs decoded
  obtain ⟨opened, whole, read, -⟩ := record_object_eq_ok.mp decoded
  have early (rest : List (Lexeme × Value)) :
      before ++ (key, v) :: (between ++ rest) = before ++ (key, v) :: between ++ rest := by
    simp only [List.append_assoc, List.cons_append]
  rw [early] at read ⊢
  obtain ⟨middle, first, -⟩ := readAll_append_eq_ok.mp read
  -- The first member may as well be read just before the second one.
  have last : (before ++ (key, v) :: between).Perm (before ++ between ++ [(key, v)]) :=
    List.perm_middle.trans (List.perm_append_singleton _ _).symm
  obtain ⟨slots, -, taken⟩ := readAll_append_eq_ok.mp (readAll_perm last first)
  obtain ⟨_, _, spelled'', taken, same⟩ := readAll_cons_eq_ok.mp taken
  cases spelled.symm.trans spelled''
  cases same
  rw [record_object opened, readAll_append, first]
  show Slots.readAll (limit - 1) fs middle ((key', w) :: after) >>= _ = _
  rw [Slots.readAll, spelled']
  show (Slots.read (limit - 1) name w fs middle >>= _) >>= _ = _
  rw [read_of_taken taken known]
  rfl

end Records

/-! ## Positions -/

/-- Whether a text ends in a position: a line and a column, both of them numbers of 64 bits. -/
def EndsInPosition (text : List Char) : Prop :=
  ∃ before line column, text = before ++ (lineMarker ++ (line ++ (columnMarker ++ column))) ∧
    (∀ c ∈ line, c.isDigit = true) ∧ (∀ c ∈ column, c.isDigit = true) ∧
    isPositionNumber line = true ∧ isPositionNumber column = true

theorem EndsInPosition.isInfix {text : List Char} (h : EndsInPosition text) : lineMarker <:+: text := by
  obtain ⟨before, line, column, rfl, -⟩ := h
  exact ⟨before, _, List.append_assoc _ _ _⟩

theorem eq_of_isPrefixOf {front text : List Char} (h : front.isPrefixOf text = true) :
    text = front ++ text.drop front.length :=
  List.prefix_iff_eq_append.mp (List.isPrefixOf_iff_prefix.mp h) |>.symm

theorem eq_of_splitLastLine {text before after : List Char}
    (split : splitLastLine text = some (before, after)) : text = before ++ (lineMarker ++ after) := by
  induction text generalizing before after with
  | nil => cases split
  | cons c rest ih =>
      rw [splitLastLine] at split
      cases inner : splitLastLine rest with
      | some parts =>
          rw [inner] at split
          cases split
          rw [ih inner]
          rfl
      | none =>
          rw [inner] at split
          dsimp only at split
          split at split
          · rename_i marked
            cases split
            exact eq_of_isPrefixOf marked
          · cases split

/-- A text that does not end in a position is kept whole. -/
theorem withoutPosition_of_not_endsInPosition {text : String} (h : ¬ EndsInPosition text.toList) :
    withoutPosition text = text := by
  rw [withoutPosition]
  split
  case h_2 => rfl
  case h_1 before after split =>
    refine if_neg fun tail => h ?_
    simp only [isPositionTail, Bool.and_eq_true, List.all_eq_true] at tail
    obtain ⟨⟨⟨line, marked⟩, digits⟩, column⟩ := tail
    refine ⟨before, _, _, ?_, fun c hc => List.mem_takeWhile_imp hc, digits, line, column⟩
    rw [← eq_of_isPrefixOf marked, List.takeWhile_append_dropWhile, ← eq_of_splitLastLine split]

end Viewsmith.Json
