import Mathlib.Data.List.Basic

/-!
# Self-delimiting spellings

A spelling is self-delimiting when it can be cut off the front of any longer text in one way only.
What it then tells about the spelled value is a view of that value: values may be spelled alike
though they differ, as long as their views agree. Spellings that delimit themselves can be put one
after the other without separators.
-/

namespace Viewsmith

/-- Whether the spellings at the front of equal texts belong to values with equal views. -/
def SelfDelimiting {α β : Type} (spell : α → List Char) (view : α → β) : Prop :=
  ∀ {a b : α} {s t : List Char}, spell a ++ s = spell b ++ t → view a = view b ∧ s = t

variable {α β : Type} {spell : α → List Char} {view : α → β}

/-- A list of spellings up to a mark that begins none of them. -/
theorem SelfDelimiting.flatMap_mark (h : SelfDelimiting spell view) {mark : Char}
    (unmarked : ∀ a, ∃ c rest, spell a = c :: rest ∧ c ≠ mark) :
    SelfDelimiting (fun l : List α => l.flatMap spell ++ [mark]) (List.map view) := by
  intro a b s t same
  induction a generalizing b with
  | nil =>
      cases b with
      | nil => exact ⟨rfl, by simpa using same⟩
      | cons y ys =>
          obtain ⟨c, rest, hy, hc⟩ := unmarked y
          simp only [List.flatMap_nil, List.nil_append, List.cons_append, List.flatMap_cons, hy,
            List.cons.injEq] at same
          exact absurd same.1.symm hc
  | cons x xs ih =>
      cases b with
      | nil =>
          obtain ⟨c, rest, hx, hc⟩ := unmarked x
          simp only [List.flatMap_nil, List.nil_append, List.cons_append, List.flatMap_cons, hx,
            List.cons.injEq] at same
          exact absurd same.1 hc
      | cons y ys =>
          simp only [List.flatMap_cons, List.append_assoc] at same
          obtain ⟨head, further⟩ := h same
          obtain ⟨tail, rest⟩ := ih (by simpa using further)
          exact ⟨by simp [head, tail], rest⟩

/-- Spellings that are never empty determine the views of the list that they spell. -/
theorem SelfDelimiting.map_eq_of_flatMap_eq (h : SelfDelimiting spell view)
    (nonempty : ∀ a, spell a ≠ []) :
    ∀ {a b : List α}, a.flatMap spell = b.flatMap spell → a.map view = b.map view
  | [], [], _ => rfl
  | [], y :: ys, same => by
      rw [List.flatMap_nil, List.flatMap_cons] at same
      exact absurd (List.append_eq_nil_iff.mp same.symm).1 (nonempty y)
  | x :: xs, [], same => by
      rw [List.flatMap_nil, List.flatMap_cons] at same
      exact absurd (List.append_eq_nil_iff.mp same).1 (nonempty x)
  | x :: xs, y :: ys, same => by
      rw [List.flatMap_cons, List.flatMap_cons] at same
      obtain ⟨head, further⟩ := h same
      rw [List.map_cons, List.map_cons, head, h.map_eq_of_flatMap_eq nonempty further]

/-- A text up to the first occurrence of a mark that it does not hold. -/
theorem append_mark_inj {mark : Char} : ∀ {a b s t : List Char}, mark ∉ a → mark ∉ b →
    a ++ mark :: s = b ++ mark :: t → a = b ∧ s = t
  | [], [], s, t, _, _, same => ⟨rfl, by simpa using same⟩
  | [], y :: ys, s, t, _, hb, same => by
      rw [List.nil_append, List.cons_append, List.cons.injEq] at same
      exact absurd (same.1 ▸ List.mem_cons_self) hb
  | x :: xs, [], s, t, ha, _, same => by
      rw [List.nil_append, List.cons_append, List.cons.injEq] at same
      exact absurd (same.1 ▸ List.mem_cons_self) ha
  | x :: xs, y :: ys, s, t, ha, hb, same => by
      rw [List.cons_append, List.cons_append, List.cons.injEq] at same
      obtain ⟨head, tail⟩ := same
      obtain ⟨rest, further⟩ := append_mark_inj (List.not_mem_of_not_mem_cons ha)
        (List.not_mem_of_not_mem_cons hb) tail
      exact ⟨by rw [head, rest], further⟩

end Viewsmith
