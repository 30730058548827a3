import Mathlib.Data.List.Basic
import Viewsmith.Code.Imports
import Viewsmith.Proofs.Code.Bindings

/-!
# Reserved words

An identifier that would be a reserved word is given an underscore. No reserved word has one, so what
comes out is free (`bindable_notMem_reservedWords`). One that would begin with a digit is given an
underscore as well, but in front, and no label has an underscore left in its words: so no identifier
begins with two (`not_prefix_bindable`), and the names that do are left to others.
-/

namespace Viewsmith

open Unicode

theorem underscore_notMem_of_reserved : ∀ word ∈ reservedWords, '_' ∉ word.toList := by
  have plain : reservedWords.all (fun word => !word.toList.contains '_') = true := by
    decide +kernel
  intro word reserved
  have free := List.all_eq_true.mp plain word reserved
  simpa using free

/-- Joined words that are made bindable are no reserved word, whatever they are. -/
theorem bindable_notMem_reservedWords (name : List Char) : bindable name ∉ reservedWords := by
  cases name with
  | nil => decide
  | cons c rest =>
      simp only [bindable]
      generalize String.ofList (if isNumeric c then '_' :: c :: rest else c :: rest) = word
      split
      · intro reserved
        exact underscore_notMem_of_reserved _ reserved (by simp)
      · rename_i free
        rwa [List.contains_iff_mem] at free

/-- At most one character is put in front of joined words to make them bindable. -/
theorem exists_front_bindable (c : Char) (rest : List Char) :
    ∃ front more, (bindable (c :: rest)).toList = front ++ c :: more ∧ front.length ≤ 1 := by
  simp only [bindable]
  by_cases numeric : isNumeric c = true
  · rw [if_pos numeric]
    split
    · exact ⟨['_'], rest ++ ['_'], by simp, Nat.le_refl 1⟩
    · exact ⟨['_'], rest, by simp, Nat.le_refl 1⟩
  · rw [if_neg numeric]
    split
    · exact ⟨[], rest ++ ['_'], by simp, Nat.zero_le 1⟩
    · exact ⟨[], rest, by simp, Nat.zero_le 1⟩

/-- Without underscores of their own, joined words that are made bindable do not begin with two. -/
theorem not_prefix_bindable {name : List Char} (plain : '_' ∉ name) :
    ¬ "__".toList <+: (bindable name).toList := by
  have twice : "__".toList = ['_', '_'] := by decide
  cases name with
  | nil => decide
  | cons c rest =>
      obtain ⟨front, more, shape, short⟩ := exists_front_bindable c rest
      have other : c ≠ '_' := fun same => plain (same ▸ List.mem_cons_self)
      rw [twice, shape]
      rintro ⟨back, whole⟩
      rcases front with _ | ⟨d, _ | ⟨e, others⟩⟩
      · exact other (List.cons.inj whole).1.symm
      · exact other (List.cons.inj (List.cons.inj whole).2).1.symm
      · simp at short

/-- No name that is made from a label is reserved, and none begins with two underscores. -/
theorem free_of_mem_names (component : String) (entries : List StateEntry) :
    ∀ name ∈ pascalName component :: bindings entries,
      name ∉ reservedWords ∧ ¬ "__".toList <+: name.toList := by
  rw [List.forall_mem_cons]
  refine ⟨⟨bindable_notMem_reservedWords _,
    not_prefix_bindable (underscore_notMem_pascalWords _)⟩, ?_⟩
  intro name bound
  obtain ⟨e, -, inside⟩ := List.mem_flatMap.mp bound
  have camel (label : String) : camelName label ∉ reservedWords ∧
      ¬ "__".toList <+: (camelName label).toList :=
    ⟨bindable_notMem_reservedWords _, not_prefix_bindable (underscore_notMem_camelWords _)⟩
  rcases List.mem_cons.mp inside with rfl | inside
  · exact camel e.name
  · rw [List.mem_singleton.mp inside]
    exact camel ("set_" ++ e.name)

theorem Primitive.symbol_mem_reservedWords (p : Primitive) : p.symbol ∈ reservedWords := by
  cases p <;> decide

theorem stylesName_mem_reservedWords : stylesName ∈ reservedWords := by
  decide

end Viewsmith
