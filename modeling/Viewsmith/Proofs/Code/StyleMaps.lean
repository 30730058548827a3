import Mathlib.Data.List.Basic
import Mathlib.Data.List.Perm.Basic
import Viewsmith.Proofs.Code.StyleSets
import Viewsmith.Proofs.Text.Order

/-!
# Declarations as maps

Two nodes have the same styles when each property has the same written value in both, in whatever
order they declare them. This is what style sets compare (`Declarations.styleSet_eq_iff`): sorting
puts the declarations of a map in the one order that its properties have. Declarations without an
empty property and without a number that is not finite are those without a fault
(`firstFault?_sortDeclarations`).
-/

namespace Viewsmith

/-! ## Equality of maps -/

namespace Declarations

/-- Whether each property has the same written value in both. Values are written the same way if
they are the same text, or numbers with the same digits. -/
def Same (a b : Declarations) : Prop :=
  ∀ property : String,
    (a.find? property).map Literal.written = (b.find? property).map Literal.written

/-- A style set holds the declarations, in some order. -/
theorem styleSet_perm (ds : Declarations) : ds.styleSet.Perm (written ds.entries) :=
  (sortByKey_perm Prod.fst _).map _

/-- A style set is in the order of its properties, which are distinct. -/
theorem pairwise_styleSet (ds : Declarations) : (ds.styleSet.map Prod.fst).Pairwise (· < ·) := by
  have sorted := pairwise_lt_sortByKey ds.nodup_keys
  rw [styleSet, written, List.map_map]
  exact List.pairwise_map.mpr sorted

theorem mem_styleSet {ds : Declarations} {property : String} {value : WrittenValue} :
    (property, value) ∈ ds.styleSet ↔ (ds.find? property).map Literal.written = some value := by
  rw [ds.styleSet_perm.mem_iff, written, List.mem_map, Option.map_eq_some_iff]
  constructor
  · rintro ⟨⟨p, v⟩, inside, same⟩
    rw [Prod.mk.injEq] at same
    obtain ⟨rfl, rfl⟩ := same
    exact ⟨v, OrderedMap.find?_eq_some.mpr inside, rfl⟩
  · rintro ⟨v, found, rfl⟩
    exact ⟨(property, v), OrderedMap.find?_eq_some.mp found, rfl⟩

/-- Style sets are equal exactly if the declarations are equal as maps. -/
theorem styleSet_eq_iff {a b : Declarations} : a.styleSet = b.styleSet ↔ a.Same b := by
  constructor
  · intro same property
    apply Option.ext
    intro value
    rw [← mem_styleSet, ← mem_styleSet, same]
  · intro same
    have members : ∀ d, d ∈ a.styleSet ↔ d ∈ b.styleSet := by
      rintro ⟨property, value⟩
      rw [mem_styleSet, mem_styleSet, same]
    -- Both are sorted strictly, so having the same members they are the same list.
    have sorted (ds : Declarations) : ds.styleSet.Pairwise fun d e => d.1 < e.1 :=
      List.pairwise_map.mp ds.pairwise_styleSet
    have nodup (ds : Declarations) : ds.styleSet.Nodup := by
      refine (sorted ds).imp ?_
      rintro d e below rfl
      exact lt_irrefl _ below
    have permuted := (List.perm_ext_iff_of_nodup (nodup a) (nodup b)).mpr members
    refine permuted.eq_of_pairwise ?_ (sorted a) (sorted b)
    intro d e _ _ below above
    exact absurd (lt_trans below above) (lt_irrefl _)

instance (a b : Declarations) : Decidable (a.Same b) :=
  decidable_of_iff _ styleSet_eq_iff

/-! ## Faults -/

/-- Whether a declaration can be written: it names a property, and its number is finite. -/
def isWritable (d : String × Literal) : Bool :=
  d.1 != "" &&
    match d.2 with
    | .number x => x.isFinite
    | .text _ => true

def isValid (ds : Declarations) : Bool := ds.entries.all isWritable

theorem declarationFault?_eq_none (d : String × Literal) :
    declarationFault? d.1 d.2 = none ↔ isWritable d = true := by
  obtain ⟨property, value⟩ := d
  unfold declarationFault? isWritable
  by_cases unnamed : property = ""
  · simp [unnamed]
  · cases value with
    | number x => simp [unnamed]
    | text s => simp [unnamed]

/-- Declarations have no fault, in whatever order they are looked at, exactly if all can be
written. -/
theorem firstFault?_sortDeclarations (ds : Declarations) :
    firstFault? (sortDeclarations ds.entries) = none ↔ ds.isValid = true := by
  rw [firstFault?, List.findSome?_eq_none_iff, isValid, List.all_eq_true]
  constructor
  · intro faultless d hd
    have sorted := (sortByKey_perm Prod.fst ds.entries).mem_iff.mpr hd
    exact (declarationFault?_eq_none d).mp (Option.map_eq_none_iff.mp (faultless d sorted))
  · intro valid d hd
    have inside := (sortByKey_perm Prod.fst ds.entries).mem_iff.mp hd
    rw [(declarationFault?_eq_none d).mpr (valid d inside)]
    rfl

end Declarations

end Viewsmith
