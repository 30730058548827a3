import Mathlib.Data.String.Basic
import Viewsmith.Text.Order

/-!
# Sorting puts keys in order

Sorted rows are in the order of their keys (`pairwise_sortByKey`), and strictly so when no two of
them share a key (`pairwise_lt_sortByKey`). With `sortByKey_perm` this tells what the sorted rows
are.
-/

namespace Viewsmith

variable {α : Type} {key : α → String}

theorem pairwise_insertByKey {x : α} {rows : List α}
    (sorted : rows.Pairwise fun a b => key a ≤ key b) :
    (insertByKey key x rows).Pairwise fun a b => key a ≤ key b := by
  induction rows with
  | nil => simp [insertByKey]
  | cons y rest ih =>
      obtain ⟨hy, hrest⟩ := List.pairwise_cons.mp sorted
      rw [insertByKey]
      split
      · rename_i below
        rw [List.pairwise_cons]
        constructor
        · intro z hz
          rcases List.mem_cons.mp ((insertByKey_perm key x rest).mem_iff.mp hz) with rfl | hz
          · exact le_of_lt below
          · exact hy z hz
        · exact ih hrest
      · rename_i above
        rw [List.pairwise_cons]
        constructor
        · intro z hz
          rcases List.mem_cons.mp hz with rfl | hz
          · exact not_lt.mp above
          · exact le_trans (not_lt.mp above) (hy z hz)
        · exact sorted

theorem pairwise_sortByKey (key : α → String) (rows : List α) :
    (sortByKey key rows).Pairwise fun a b => key a ≤ key b := by
  induction rows with
  | nil => exact List.Pairwise.nil
  | cons x rest ih => exact pairwise_insertByKey ih

theorem pairwise_lt_sortByKey {rows : List α} (nodup : (rows.map key).Nodup) :
    (sortByKey key rows).Pairwise fun a b => key a < key b := by
  have distinct : (sortByKey key rows).Pairwise fun a b => key a ≠ key b := by
    rw [← List.pairwise_map (f := key) (R := (· ≠ ·))]
    exact ((sortByKey_perm key rows).map key).nodup_iff.mpr nodup
  exact (pairwise_sortByKey key rows).imp₂ (fun _ _ le ne => lt_of_le_of_ne le ne) distinct

end Viewsmith
