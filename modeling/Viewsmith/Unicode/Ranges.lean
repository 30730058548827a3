/-!
# Sets of code points

A character property is written as a table: the inclusive ranges of code points that have it,
in increasing order. Membership walks the table and stops at the first range that begins above
the code point, so an ASCII character is decided by the first entries.
-/

namespace Viewsmith.Unicode

def inRanges : List (Nat × Nat) → Nat → Bool
  | [], _ => false
  | (first, last) :: rest, n =>
      if n < first then false
      else if n ≤ last then true
      else inRanges rest n

@[simp]
theorem inRanges_nil (n : Nat) : inRanges [] n = false := rfl

/-- A member of the table lies in one of its ranges. -/
theorem exists_range_of_inRanges {table : List (Nat × Nat)} {n : Nat}
    (h : inRanges table n = true) : ∃ r ∈ table, r.1 ≤ n ∧ n ≤ r.2 := by
  induction table with
  | nil => simp [inRanges] at h
  | cons r rest ih =>
      obtain ⟨first, last⟩ := r
      rw [inRanges] at h
      split at h
      · simp at h
      · rename_i above
        split at h
        · rename_i below
          exact ⟨(first, last), List.mem_cons_self, by omega, below⟩
        · obtain ⟨r, member, bounds⟩ := ih h
          exact ⟨r, List.mem_cons_of_mem _ member, bounds⟩

end Viewsmith.Unicode
