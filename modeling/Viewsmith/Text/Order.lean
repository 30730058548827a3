/-!
# Sorting by a text

Rows are sorted by a text that belongs to each of them, in the order of code points. Main statement:
sorting permutes the rows (`sortByKey_perm`).
-/

namespace Viewsmith

variable {α : Type}

/-- Puts a row in front of the first row whose key is not smaller. -/
def insertByKey (key : α → String) (x : α) : List α → List α
  | [] => [x]
  | y :: rest => if key y < key x then y :: insertByKey key x rest else x :: y :: rest

def sortByKey (key : α → String) (rows : List α) : List α := rows.foldr (insertByKey key) []

theorem insertByKey_perm (key : α → String) (x : α) (rows : List α) :
    (insertByKey key x rows).Perm (x :: rows) := by
  induction rows with
  | nil => exact .refl _
  | cons y rest ih =>
      rw [insertByKey]
      split
      · exact (ih.cons y).trans (.swap x y rest)
      · exact .refl _

theorem sortByKey_perm (key : α → String) (rows : List α) :
    (sortByKey key rows).Perm rows := by
  induction rows with
  | nil => exact .refl _
  | cons x rest ih => exact (insertByKey_perm key x _).trans (ih.cons x)

end Viewsmith
