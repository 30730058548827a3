import Mathlib.Data.List.Basic
import Viewsmith.Proofs.Reading.GeneratedMarkup

/-!
# Texts of lines

A reader who looks at a file line by line sees the texts of its lines, and not how they are indented
and ended. Of lines that are laid out these are the texts that were laid out
(`lineTexts_layOutLines`).
-/

namespace Viewsmith

/-- The text of a line, without what lays it out. -/
def visibleText (line : List Char) : List Char := (skipLayout line).filter (· ≠ '\r')

def lineTexts (code : List Char) : List (List Char) := (code.splitOn '\n').map visibleText

/-- A line feed ends a line, whatever stands before it. -/
theorem lineTexts_append (front back : List Char) :
    lineTexts (front ++ '\n' :: back) = lineTexts front ++ lineTexts back := by
  rw [lineTexts, List.splitOn_append_cons_self, List.map_append]
  rfl

theorem lineTexts_line {line : List Char} (oneLine : '\n' ∉ line) :
    lineTexts line = [visibleText line] := by
  rw [lineTexts, List.splitOn_eq_singleton oneLine, List.map_singleton]

theorem lineTexts_cons {line : List Char} (oneLine : '\n' ∉ line) (rest : List Char) :
    lineTexts (line ++ '\n' :: rest) = visibleText line :: lineTexts rest := by
  rw [lineTexts_append, lineTexts_line oneLine, List.singleton_append]

/-- What is left of a line is its text. -/
theorem visibleText_unended (o : WriterOptions) {l : Line} (flush : l.IsFlush) :
    visibleText (l.unended o) = l.text := by
  have kept : l.text.filter (· ≠ '\r') = l.text := by
    rw [List.filter_eq_self]
    intro c inside
    rw [decide_eq_true_iff]
    rintro rfl
    exact flush.oneLine.2 inside
  have dropped : o.lineEnd.text.toList.dropLast.filter (· ≠ '\r') = [] := by
    cases o.lineEnd <;> decide
  rw [visibleText, skipLayout_unended o flush]
  split
  · rename_i empty
    rw [empty, List.filter_nil]
  · rw [List.filter_append, kept, dropped, List.append_nil]

/-- The lines of a file begin with those that were laid out. -/
theorem lineTexts_layOutLines (o : WriterOptions) (rest : List Char) : ∀ {lines : List Line},
    (∀ l ∈ lines, l.IsFlush) →
      lineTexts (layOutLines o lines ++ rest) = lines.map Line.text ++ lineTexts rest
  | [], _ => rfl
  | l :: more, flush => by
      rw [List.forall_mem_cons] at flush
      rw [layOutLines_cons, l.layOut_eq_unended, List.append_assoc, List.append_assoc,
        List.singleton_append, lineTexts_cons (lineFeed_notMem_unended o flush.1),
        visibleText_unended o flush.1, lineTexts_layOutLines o rest flush.2]
      rfl

/-! ## Counting lines -/

def beginsWith (tokens : List String) (text : List Char) : Bool :=
  tokens.any fun token => token.toList.isPrefixOf text

/-- The number of lines of a file that begin with one of some tokens. -/
def countLines (tokens : List String) (code : List Char) : Nat :=
  (lineTexts code).countP (beginsWith tokens)

section

variable {tokens : List String} {text : List Char}

theorem beginsWith_eq_true :
    beginsWith tokens text = true ↔ ∃ token ∈ tokens, token.toList <+: text := by
  simp only [beginsWith, List.any_eq_true, List.isPrefixOf_iff_prefix]

theorem beginsWith_eq_false :
    beginsWith tokens text = false ↔ ∀ token ∈ tokens, ¬ token.toList <+: text := by
  rw [← Bool.not_eq_true, beginsWith_eq_true]
  exact not_exists.trans (forall_congr' fun _ => not_and)

/-- A text that begins otherwise than all tokens is not counted. -/
theorem beginsWith_of_head {c : Char} (heads : ∀ token ∈ tokens, token.toList.head? = some c)
    (other : text.head? ≠ some c) : beginsWith tokens text = false :=
  beginsWith_eq_false.mpr fun token inside => not_prefix_of_head (heads token inside) other

theorem countP_eq_zero_of_head {c : Char} (heads : ∀ token ∈ tokens, token.toList.head? = some c)
    {lines : List Line} (others : ∀ l ∈ lines, l.text.head? ≠ some c) :
    lines.countP (fun l => beginsWith tokens l.text) = 0 := by
  rw [List.countP_eq_zero]
  intro l hl
  rw [beginsWith_of_head heads (others l hl)]
  exact Bool.false_ne_true

theorem countLines_layOutLines (o : WriterOptions) {lines : List Line}
    (flush : ∀ l ∈ lines, l.IsFlush) (last : beginsWith tokens [] = false) :
    countLines tokens (layOutLines o lines)
      = lines.countP fun l => beginsWith tokens l.text := by
  have texts := lineTexts_layOutLines o [] flush
  have nothing : lineTexts [] = [[]] := by decide
  rw [List.append_nil, nothing] at texts
  rw [countLines, texts, List.countP_append, List.countP_map, List.countP_singleton, last,
    if_neg Bool.false_ne_true]
  rfl

end

end Viewsmith
