import Mathlib.Data.Bool.AllAny
import Mathlib.Data.List.MinMax
import Mathlib.Data.Nat.Basic
import Mathlib.Order.Nat
import Viewsmith.Json.Encoder

/-!
# Nesting of documents

How many arrays and objects of a document are open at once is a matter of its characters: brackets
count, except in string literals. In a written document every bracket is closed again (`Nests`), so
the nesting of a list is one more than that of its deepest entry (`nests_brackets`).
-/

namespace Viewsmith.Json

/-! ## Counting brackets -/

/-- Where a character stands: outside of string literals, in one, or after a backslash in one. -/
inductive TextPlace : Type where
  | outside
  | literal
  | escape
deriving DecidableEq, Repr

/-- The lists that are open at a place in a text, and the most that have been open at once. -/
structure OpenLists : Type where
  place : TextPlace
  now : Nat
  most : Nat
deriving DecidableEq, Repr

def OpenLists.step (s : OpenLists) (c : Char) : OpenLists :=
  match s.place with
  | .escape => { s with place := .literal }
  | .literal =>
      if c = '\\' then { s with place := .escape }
      else if c = '"' then { s with place := .outside }
      else s
  | .outside =>
      if c = '"' then { s with place := .literal }
      else if c = '[' ∨ c = '{' then ⟨.outside, s.now + 1, max s.most (s.now + 1)⟩
      else if c = ']' ∨ c = '}' then { s with now := s.now - 1 }
      else s

/-- The most arrays and objects that are open at once in a text. -/
def nesting (text : List Char) : Nat := (text.foldl OpenLists.step ⟨.outside, 0, 0⟩).most

/-! ## Texts whose brackets are closed -/

/-- Whether a text, begun outside of string literals, closes what it opens, and opens so many lists at
once. -/
def Nests (text : List Char) (depth : Nat) : Prop :=
  ∀ now most : Nat, now ≤ most →
    text.foldl OpenLists.step ⟨.outside, now, most⟩ = ⟨.outside, now, max most (now + depth)⟩

def IsClosed (text : List Char) : Prop := Nests text (nesting text)

theorem Nests.nesting_eq {text : List Char} {depth : Nat} (h : Nests text depth) :
    nesting text = depth := by
  rw [nesting, h 0 0 le_rfl, Nat.zero_add, Nat.zero_max]

theorem Nests.isClosed {text : List Char} {depth : Nat} (h : Nests text depth) : IsClosed text := by
  rw [IsClosed, h.nesting_eq]
  exact h

theorem Nests.append {a b : List Char} {m n : Nat} (first : Nests a m) (second : Nests b n) :
    Nests (a ++ b) (max m n) := by
  intro now most below
  rw [List.foldl_append, first now most below, second now _ (by omega), OpenLists.mk.injEq]
  exact ⟨rfl, rfl, by omega⟩

def isPlainChar (c : Char) : Bool := c ∉ ['"', '[', ']', '{', '}']

theorem nests_of_plain {text : List Char} (plain : ∀ c ∈ text, isPlainChar c = true) :
    Nests text 0 := by
  intro now most below
  induction text with
  | nil => rw [List.foldl_nil, Nat.add_zero, Nat.max_eq_left below]
  | cons c rest ih =>
      have first := plain c List.mem_cons_self
      have same : OpenLists.step ⟨.outside, now, most⟩ c = ⟨.outside, now, most⟩ := by
        simp [isPlainChar] at first
        simp [OpenLists.step, first]
      rw [List.foldl_cons, same]
      exact ih fun d hd => plain d (List.mem_cons_of_mem _ hd)

/-! ## String literals -/

section Literals

variable (now most : Nat)

theorem step_literal {c : Char} (other : c ∉ ['\\', '"']) :
    OpenLists.step ⟨.literal, now, most⟩ c = ⟨.literal, now, most⟩ := by
  simp at other
  simp [OpenLists.step, other]

/-- Within a literal a written character is gone past as a whole. -/
theorem foldl_step_escapeChar (c : Char) :
    (escapeChar c).foldl OpenLists.step ⟨.literal, now, most⟩ = ⟨.literal, now, most⟩ := by
  have escaped (letter : Char) :
      ['\\', letter].foldl OpenLists.step ⟨.literal, now, most⟩ = ⟨.literal, now, most⟩ := rfl
  unfold escapeChar
  split_ifs with quote backspace feed lf cr tab control
  · exact escaped _
  · exact escaped _
  · exact escaped _
  · exact escaped _
  · exact escaped _
  · exact escaped _
  · have digits : ∀ n < 0x20, Nat.digitChar (n / 16) ∉ ['\\', '"'] ∧
        Nat.digitChar (n % 16) ∉ ['\\', '"'] := by decide
    obtain ⟨high, low⟩ := digits _ control
    show OpenLists.step (OpenLists.step ⟨.literal, now, most⟩ _) _ = _
    rw [step_literal now most high, step_literal now most low]
  · exact step_literal now most (by simpa [and_comm] using quote)

theorem foldl_step_flatMap (text : List Char) :
    (text.flatMap escapeChar).foldl OpenLists.step ⟨.literal, now, most⟩
      = ⟨.literal, now, most⟩ := by
  induction text with
  | nil => rfl
  | cons c rest ih => rw [List.flatMap_cons, List.foldl_append, foldl_step_escapeChar, ih]

end Literals

theorem nests_quoted (text : String) : Nests (quoted text) 0 := by
  intro now most below
  have opened : OpenLists.step ⟨.outside, now, most⟩ '"' = ⟨.literal, now, most⟩ := rfl
  have closed : OpenLists.step ⟨.literal, now, most⟩ '"' = ⟨.outside, now, most⟩ := rfl
  rw [quoted, List.cons_append, List.foldl_cons, opened, List.foldl_append, foldl_step_flatMap,
    List.foldl_cons, closed, List.foldl_nil, Nat.add_zero, Nat.max_eq_left below]

/-! ## Lists -/

theorem nests_intercalate : ∀ {entries : List (List Char)}, (∀ e ∈ entries, IsClosed e) →
    Nests ([','].intercalate entries) ((entries.map nesting).foldr max ⊥)
  | [], _ => nests_of_plain (by simp [List.intercalate_nil])
  | [e], h => by
      rw [List.intercalate_singleton, List.map_singleton, List.foldr_cons, List.foldr_nil, max_bot_right]
      exact h e List.mem_cons_self
  | e :: f :: rest, h => by
      have others := nests_intercalate fun d hd => h d (List.mem_cons_of_mem e hd)
      have comma : Nests [','] 0 := nests_of_plain (List.all_iff_forall_prop.mp (by decide))
      have whole := ((h e List.mem_cons_self).append comma).append others
      rwa [Nat.max_zero, ← List.intercalate_cons_cons] at whole

section Bracketed

variable {opening closing : Char} {entries : List (List Char)}

/-- A list of closed entries is closed, and one more list is open in it than in the deepest of them. -/
theorem nests_brackets (opens : opening = '[' ∨ opening = '{') (closes : closing = ']' ∨ closing = '}')
    (h : ∀ e ∈ entries, IsClosed e) :
    Nests (bracketed opening closing entries) ((entries.map nesting).foldr max ⊥ + 1) := by
  intro now most below
  have opened : OpenLists.step ⟨.outside, now, most⟩ opening
      = ⟨.outside, now + 1, max most (now + 1)⟩ := by
    rcases opens with rfl | rfl <;> rfl
  have closed (most : Nat) : OpenLists.step ⟨.outside, now + 1, most⟩ closing
      = ⟨.outside, now, most⟩ := by
    rcases closes with rfl | rfl <;> rfl
  rw [bracketed, List.cons_append, List.foldl_cons, opened, List.foldl_append,
    nests_intercalate h _ _ (Nat.le_max_right ..), List.foldl_cons, closed, List.foldl_nil,
    OpenLists.mk.injEq]
  exact ⟨rfl, rfl, by omega⟩

/-- A list of closed entries is closed, and more lists are open in it than in any entry. -/
theorem nests_bracketed (opens : opening = '[' ∨ opening = '{') (closes : closing = ']' ∨ closing = '}')
    (h : ∀ e ∈ entries, IsClosed e) :
    IsClosed (bracketed opening closing entries) ∧
      0 < nesting (bracketed opening closing entries) ∧
      ∀ e ∈ entries, nesting e < nesting (bracketed opening closing entries) := by
  have whole := nests_brackets opens closes h
  rw [whole.nesting_eq]
  refine ⟨whole.isClosed, Nat.succ_pos _, fun e he => Nat.lt_succ_of_le ?_⟩
  exact List.le_max_of_le (List.mem_map_of_mem he) le_rfl

/-- At most one more list is open in a list than in its entries. -/
theorem nesting_bracketed_le (opens : opening = '[' ∨ opening = '{')
    (closes : closing = ']' ∨ closing = '}') (h : ∀ e ∈ entries, IsClosed e) {depth : Nat}
    (bound : ∀ e ∈ entries, nesting e ≤ depth) :
    nesting (bracketed opening closing entries) ≤ depth + 1 := by
  rw [(nests_brackets opens closes h).nesting_eq]
  exact Nat.succ_le_succ (List.max_le_of_forall_le _ _ (List.forall_mem_map.mpr bound))

end Bracketed

/-- Brackets in a literal open nothing. -/
example : nesting "[\"[[\",\x7b\"]\":[]\x7d]".toList = 3 := by decide

end Viewsmith.Json
