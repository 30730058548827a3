import Mathlib.Data.List.Basic
import Viewsmith.Proofs.Text.SelfDelimiting
import Viewsmith.Text.Shown

/-!
# Shown texts are self-delimiting

A shown text ends at its first quote without a backslash, and each character is shown in its own
way, so a shown text can be cut off the front of any longer one and tells which text it shows
(`selfDelimiting_quote`).
-/

namespace Viewsmith.Shown

open Unicode

/-! ## Hexadecimal digits -/

theorem digitChar_inj {m n : Nat} (hm : m < 16) (hn : n < 16)
    (same : m.digitChar = n.digitChar) : m = n := by
  have table : ∀ m < 16, ∀ n < 16, m.digitChar = n.digitChar → m = n := by decide
  exact table m hm n hn same

theorem toDigits_inj : ∀ {m n : Nat}, Nat.toDigits 16 m = Nat.toDigits 16 n → m = n := by
  intro m
  induction m using Nat.strongRecOn with
  | ind m ih =>
      intro n same
      have longer (k : Nat) : 0 < (Nat.toDigits 16 (k / 16)).length := Nat.length_toDigits_pos
      have lengths := congrArg List.length same
      rw [Nat.toDigits_eq_if (by decide), Nat.toDigits_eq_if (n := n) (by decide)] at same lengths
      by_cases hm : m < 16
      · by_cases hn : n < 16
        · rw [if_pos hm, if_pos hn] at same
          exact digitChar_inj hm hn (List.singleton_inj.mp same)
        · have := longer n
          simp only [if_pos hm, if_neg hn, List.length_append, List.length_singleton] at lengths
          omega
      · by_cases hn : n < 16
        · have := longer m
          simp only [if_neg hm, if_pos hn, List.length_append, List.length_singleton] at lengths
          omega
        · rw [if_neg hm, if_neg hn] at same
          obtain ⟨front, last⟩ := List.append_inj' same rfl
          have high := ih (m / 16) (by omega) front
          have low := digitChar_inj (Nat.mod_lt m (by decide)) (Nat.mod_lt n (by decide))
            (List.singleton_inj.mp last)
          omega

theorem brace_notMem_toDigits : ∀ n : Nat, '\x7d' ∉ Nat.toDigits 16 n := by
  intro n
  have digit : ∀ m < 16, '\x7d' ≠ m.digitChar := by decide
  induction n using Nat.strongRecOn with
  | ind n ih =>
      rw [Nat.toDigits_eq_if (by decide)]
      split
      · rw [List.mem_singleton]
        exact digit n ‹_›
      · rw [List.mem_append, List.mem_singleton]
        rintro (h | h)
        · exact ih (n / 16) (by omega) h
        · exact digit (n % 16) (Nat.mod_lt n (by decide)) h

/-! ## Characters -/

def shortEscapes : List (Char × Char) :=
  [('\x00', '0'), ('\t', 't'), ('\r', 'r'), ('\n', 'n'), ('"', '"'), ('\\', '\\')]

/-- A character is shown by itself, by a short escape or by its code point. -/
theorem showChar_cases (c : Char) :
    (showChar c = [c] ∧ c ≠ '\\' ∧ c ≠ '"') ∨
      (∃ e, showChar c = ['\\', e] ∧ (c, e) ∈ shortEscapes) ∨
      showChar c = codePointEscape c := by
  unfold showChar
  by_cases short : c ∈ shortEscapes.map Prod.fst
  · right
    left
    simp only [shortEscapes, List.map_cons, List.map_nil, List.mem_cons, List.not_mem_nil,
      or_false] at short
    rcases short with rfl | rfl | rfl | rfl | rfl | rfl
    all_goals exact ⟨_, rfl, by decide⟩
  · simp only [shortEscapes, List.map_cons, List.map_nil, List.mem_cons, List.not_mem_nil,
      or_false, not_or] at short
    obtain ⟨h0, ht, hr, hn, hq, hb⟩ := short
    simp only [h0, ht, hr, hn, hq, hb, or_self, if_false]
    split
    · exact Or.inr (Or.inr rfl)
    · split
      · exact Or.inl ⟨rfl, hb, hq⟩
      · exact Or.inr (Or.inr rfl)

theorem shortEscapes_inj {c d e : Char} (hc : (c, e) ∈ shortEscapes)
    (hd : (d, e) ∈ shortEscapes) : c = d := by
  have table : ∀ p ∈ shortEscapes, ∀ q ∈ shortEscapes, p.2 = q.2 → p.1 = q.1 := by decide
  exact table _ hc _ hd rfl

theorem ne_u_of_mem_shortEscapes {c e : Char} (h : (c, e) ∈ shortEscapes) : e ≠ 'u' := by
  have table : ∀ p ∈ shortEscapes, p.2 ≠ 'u' := by decide
  exact table _ h

theorem selfDelimiting_codePointEscape : SelfDelimiting codePointEscape id := by
  intro c d s t same
  simp only [codePointEscape, List.cons_append, List.nil_append, List.append_assoc,
    List.cons.injEq, true_and] at same
  obtain ⟨digits, rest⟩ :=
    append_mark_inj (brace_notMem_toDigits _) (brace_notMem_toDigits _) same
  have code : c.toNat = d.toNat := toDigits_inj digits
  exact ⟨by rw [id, id, ← Char.ofNat_toNat c, code, Char.ofNat_toNat], rest⟩

theorem selfDelimiting_showChar : SelfDelimiting showChar id := by
  intro c d s t same
  -- Characters that are shown in different ways differ in the first or second character shown.
  rcases showChar_cases c with ⟨hc, backc, -⟩ | ⟨e, hc, tablec⟩ | hc
  · rcases showChar_cases d with ⟨hd, -, -⟩ | ⟨f, hd, -⟩ | hd
    · rw [hc, hd] at same
      simpa using same
    · simp only [hc, hd, List.cons_append, List.cons.injEq] at same
      exact absurd same.1 backc
    · simp only [hc, hd, codePointEscape, List.cons_append, List.cons.injEq] at same
      exact absurd same.1 backc
  · rcases showChar_cases d with ⟨hd, backd, -⟩ | ⟨f, hd, tabled⟩ | hd
    · simp only [hc, hd, List.cons_append, List.cons.injEq] at same
      exact absurd same.1.symm backd
    · simp only [hc, hd, List.cons_append, List.nil_append, List.cons.injEq, true_and] at same
      obtain ⟨rfl, rest⟩ := same
      exact ⟨shortEscapes_inj tablec tabled, rest⟩
    · simp only [hc, hd, codePointEscape, List.cons_append, List.cons.injEq, true_and] at same
      exact absurd same.1 (ne_u_of_mem_shortEscapes tablec)
  · rcases showChar_cases d with ⟨hd, backd, -⟩ | ⟨f, hd, tabled⟩ | hd
    · simp only [hc, hd, codePointEscape, List.cons_append, List.cons.injEq] at same
      exact absurd same.1.symm backd
    · simp only [hc, hd, codePointEscape, List.cons_append, List.cons.injEq, true_and] at same
      exact absurd same.1.symm (ne_u_of_mem_shortEscapes tabled)
    · rw [hc, hd] at same
      exact selfDelimiting_codePointEscape same

/-! ## Texts -/

theorem exists_cons_showChar (c : Char) : ∃ d rest, showChar c = d :: rest ∧ d ≠ '"' := by
  rcases showChar_cases c with ⟨h, -, quote⟩ | ⟨e, h, -⟩ | h
  · exact ⟨c, [], h, quote⟩
  · exact ⟨'\\', [e], h, by decide⟩
  · exact ⟨'\\', _, h, by decide⟩

/-- A shown text at the front of a longer one tells which text it shows and where it ends. -/
theorem selfDelimiting_quote : SelfDelimiting (fun s : String => (quote s).toList) id := by
  intro a b s t same
  simp only [quote, String.toList_ofList, List.cons_append, List.cons.injEq, true_and] at same
  obtain ⟨texts, rest⟩ := selfDelimiting_showChar.flatMap_mark exists_cons_showChar same
  rw [List.map_id, List.map_id] at texts
  exact ⟨String.toList_inj.mp texts, rest⟩

end Viewsmith.Shown
