import Mathlib.Data.List.Basic
import Viewsmith.Proofs.Code.Walk

/-!
# Faults of styles

Which declarations cannot be written, and which one a node is refused for: the first of them in the
order of the properties (`Node.invalidStyle?_eq_some`). A row's flex direction can always be written,
so a node is refused for what it declares itself, whatever the settings say.
-/

namespace Viewsmith

/-! ## Declarations -/

/-- Whether a declaration cannot be written: its property has no name, or its number is not finite. -/
def IsFaulty (d : String × Literal) : Prop :=
  d.1 = "" ∨ ∃ x, d.2 = .number x ∧ x.isFinite = false

/-- What is wrong with a declaration. Of a property without a name the value does not matter. -/
inductive HasFault : String × Literal → StyleFault → Prop where
  | emptyProperty (value : Literal) : HasFault ("", value) .emptyProperty
  | notFinite {property : String} {x : Float} (named : property ≠ "") (infinite : x.isFinite = false) :
      HasFault (property, .number x) (.notFinite x)

theorem declarationFault?_eq_some {d : String × Literal} {fault : StyleFault} :
    declarationFault? d.1 d.2 = some fault ↔ HasFault d fault := by
  obtain ⟨property, value⟩ := d
  unfold declarationFault?
  by_cases unnamed : property = ""
  · subst unnamed
    constructor
    · intro found
      cases found
      exact .emptyProperty value
    · intro h
      cases h with
      | emptyProperty => rfl
      | notFinite named => exact absurd rfl named
  · rw [if_neg (by simpa using unnamed)]
    constructor
    · intro found
      cases value with
      | text s => cases found
      | number x =>
          cases finite : x.isFinite with
          | true => simp [finite] at found
          | false =>
              simp only [finite, Bool.false_eq_true, if_false, Option.some.injEq] at found
              rw [← found]
              exact .notFinite unnamed finite
    · intro h
      cases h with
      | emptyProperty => exact absurd rfl unnamed
      | notFinite _ infinite => simp [infinite]

theorem exists_hasFault {d : String × Literal} : (∃ fault, HasFault d fault) ↔ IsFaulty d := by
  constructor
  · rintro ⟨fault, h⟩
    cases h with
    | emptyProperty value => exact Or.inl rfl
    | notFinite _ infinite => exact Or.inr ⟨_, rfl, infinite⟩
  · obtain ⟨property, value⟩ := d
    intro faulty
    by_cases unnamed : property = ""
    · subst unnamed
      exact ⟨_, .emptyProperty value⟩
    · obtain ⟨x, rfl, infinite⟩ := faulty.resolve_left unnamed
      exact ⟨_, .notFinite unnamed infinite⟩

theorem declarationFault?_eq_none_iff {d : String × Literal} :
    declarationFault? d.1 d.2 = none ↔ ¬ IsFaulty d := by
  rw [← exists_hasFault, Option.eq_none_iff_forall_ne_some, not_exists]
  exact forall_congr' fun _ => not_congr declarationFault?_eq_some

/-! ## Maps of declarations -/

namespace Declarations

variable {ds : Declarations}

theorem isWritable_iff {d : String × Literal} : isWritable d = true ↔ ¬ IsFaulty d :=
  (declarationFault?_eq_none d).symm.trans declarationFault?_eq_none_iff

theorem firstFault?_eq_none_iff :
    firstFault? (sortDeclarations ds.entries) = none ↔ ∀ d ∈ ds.entries, ¬ IsFaulty d := by
  rw [firstFault?_sortDeclarations, isValid, List.all_eq_true]
  exact forall₂_congr fun _ _ => isWritable_iff

/-- The first fault is that of the least property among those of the faulty declarations. -/
theorem least_of_firstFault? {property : String} {fault : StyleFault}
    (first : firstFault? (sortDeclarations ds.entries) = some (property, fault)) :
    (∃ value, (property, value) ∈ ds.entries ∧ HasFault (property, value) fault) ∧
      ∀ d ∈ ds.entries, IsFaulty d → property ≤ d.1 := by
  obtain ⟨before, ⟨p, value⟩, after, sorted, found, sound⟩ := List.findSome?_eq_some_iff.mp first
  obtain ⟨_, present, same⟩ := Option.map_eq_some_iff.mp found
  obtain ⟨rfl, rfl⟩ := Prod.mk.inj same
  have members (d : String × Literal) : d ∈ before ++ (p, value) :: after ↔ d ∈ ds.entries := by
    rw [← sorted]
    exact (sortByKey_perm Prod.fst ds.entries).mem_iff
  have order := pairwise_sortByKey Prod.fst ds.entries
  rw [← sortDeclarations, sorted, List.pairwise_append, List.pairwise_cons] at order
  refine ⟨⟨value, (members _).mp (by simp), declarationFault?_eq_some.mp present⟩, ?_⟩
  intro d hd faulty
  rcases List.mem_append.mp ((members d).mpr hd) with early | late
  · exact absurd faulty (declarationFault?_eq_none_iff.mp (Option.map_eq_none_iff.mp (sound d early)))
  · rcases List.mem_cons.mp late with rfl | late
    · exact le_refl _
    · exact order.2.1.1 d late

/-- The first fault of a map depends on its faulty declarations alone. -/
theorem firstFault?_eq_some_iff {property : String} {fault : StyleFault} :
    firstFault? (sortDeclarations ds.entries) = some (property, fault) ↔
      (∃ value, (property, value) ∈ ds.entries ∧ HasFault (property, value) fault) ∧
        ∀ d ∈ ds.entries, IsFaulty d → property ≤ d.1 := by
  constructor
  · exact least_of_firstFault?
  · rintro ⟨⟨value, inside, fails⟩, least⟩
    have faulty : IsFaulty (property, value) := exists_hasFault.mp ⟨fault, fails⟩
    cases found : firstFault? (sortDeclarations ds.entries) with
    | none => exact absurd faulty (firstFault?_eq_none_iff.mp found _ inside)
    | some first =>
        obtain ⟨property', fault'⟩ := first
        obtain ⟨⟨value', inside', fails'⟩, least'⟩ := least_of_firstFault? found
        have same : property' = property := by
          apply le_antisymm
          · exact least' _ inside faulty
          · exact least _ inside' (exists_hasFault.mp ⟨_, fails'⟩)
        subst same
        have value_eq : value' = value := Option.some.inj
          ((OrderedMap.find?_eq_some.mpr inside').symm.trans (OrderedMap.find?_eq_some.mpr inside))
        subst value_eq
        have fault_eq := (declarationFault?_eq_some.mpr fails').symm.trans
          (declarationFault?_eq_some.mpr fails)
        rw [Option.some.inj fault_eq]

end Declarations

/-! ## Nodes -/

def Node.IsSound (n : Node) : Prop := ∀ d ∈ n.styles.entries, ¬ IsFaulty d

/-- Whether a node is refused for a fault: that of the first property, in the order of properties,
of which it has a faulty declaration. -/
structure Node.IsRefused (n : Node) (e : InvalidStyle) : Prop where
  node : e.node = n.name
  fault : ∃ value, (e.property, value) ∈ n.styles.entries ∧ HasFault (e.property, value) e.fault
  first : ∀ d ∈ n.styles.entries, IsFaulty d → e.property ≤ d.1

theorem Node.mem_effectiveStyles {options : ComponentOptions} {n : Node} {d : String × Literal}
    (faulty : IsFaulty d) :
    d ∈ (n.effectiveStyles options).entries ↔ d ∈ n.styles.entries := by
  rw [entries_effectiveStyles, effectiveDeclarations]
  split
  · rw [List.mem_append, List.mem_singleton, or_iff_left]
    rintro rfl
    rcases faulty with unnamed | ⟨x, number, -⟩
    · exact absurd unnamed (by decide)
    · cases number
  · exact Iff.rfl

theorem Node.invalidStyle?_eq_none {options : ComponentOptions} {n : Node} :
    n.invalidStyle? options = none ↔ n.IsSound := by
  rw [invalidStyle?, Option.map_eq_none_iff, Declarations.firstFault?_eq_none_iff]
  constructor
  · intro sound d hd faulty
    exact sound d ((mem_effectiveStyles faulty).mpr hd) faulty
  · intro sound d hd faulty
    exact sound d ((mem_effectiveStyles faulty).mp hd) faulty

/-- A node is refused for its own declarations, whatever the settings of the component say. -/
theorem Node.invalidStyle?_eq_some {options : ComponentOptions} {n : Node} {e : InvalidStyle} :
    n.invalidStyle? options = some e ↔ n.IsRefused e := by
  rw [invalidStyle?, Option.map_eq_some_iff]
  constructor
  · rintro ⟨⟨property, fault⟩, first, rfl⟩
    obtain ⟨⟨value, inside, fails⟩, least⟩ := Declarations.firstFault?_eq_some_iff.mp first
    refine ⟨rfl, ⟨value, ?_, fails⟩, fun d hd faulty => ?_⟩
    · exact (mem_effectiveStyles (exists_hasFault.mp ⟨fault, fails⟩)).mp inside
    · exact least d ((mem_effectiveStyles faulty).mpr hd) faulty
  · rintro ⟨node, ⟨value, inside, fails⟩, least⟩
    refine ⟨(e.property, e.fault), Declarations.firstFault?_eq_some_iff.mpr ⟨⟨value, ?_, fails⟩, ?_⟩, ?_⟩
    · exact (mem_effectiveStyles (exists_hasFault.mp ⟨_, fails⟩)).mpr inside
    · intro d hd faulty
      exact least d ((mem_effectiveStyles faulty).mp hd) faulty
    · rw [← node]

/-! ## Rows of nodes -/

/-- Whether a node is the first one of a row that is refused, after nodes that are sound. -/
structure FirstRefused (nodes before : List Node) (n : Node) (e : InvalidStyle) : Prop where
  route : ∃ after, nodes = before ++ n :: after
  sound : ∀ m ∈ before, m.IsSound
  refused : n.IsRefused e

theorem findSome?_invalidStyle?_eq_none {options : ComponentOptions} {nodes : List Node} :
    nodes.findSome? (Node.invalidStyle? options) = none ↔ ∀ n ∈ nodes, n.IsSound := by
  rw [List.findSome?_eq_none_iff]
  exact forall₂_congr fun _ _ => Node.invalidStyle?_eq_none

theorem findSome?_invalidStyle?_eq_some {options : ComponentOptions} {nodes : List Node}
    {e : InvalidStyle} :
    nodes.findSome? (Node.invalidStyle? options) = some e ↔
      ∃ before n, FirstRefused nodes before n e := by
  rw [List.findSome?_eq_some_iff]
  constructor
  · rintro ⟨before, n, after, route, found, sound⟩
    exact ⟨before, n, ⟨after, route⟩, fun m hm => Node.invalidStyle?_eq_none.mp (sound m hm),
      Node.invalidStyle?_eq_some.mp found⟩
  · rintro ⟨before, n, ⟨after, route⟩, sound, refused⟩
    exact ⟨before, n, after, route, Node.invalidStyle?_eq_some.mpr refused,
      fun m hm => Node.invalidStyle?_eq_none.mpr (sound m hm)⟩

theorem exists_invalidStyle_iff {options : ComponentOptions} {nodes : List Node} :
    (∃ e, nodes.findSome? (Node.invalidStyle? options) = some e) ↔
      ∃ n ∈ nodes, ∃ d ∈ n.styles.entries, IsFaulty d := by
  constructor
  · rintro ⟨e, found⟩
    obtain ⟨before, n, ⟨after, route⟩, -, refused⟩ := findSome?_invalidStyle?_eq_some.mp found
    obtain ⟨value, inside, fault⟩ := refused.fault
    refine ⟨n, ?_, _, inside, exists_hasFault.mp ⟨_, fault⟩⟩
    rw [route]
    simp
  · rintro ⟨n, hn, d, hd, faulty⟩
    cases found : nodes.findSome? (Node.invalidStyle? options) with
    | none => exact absurd faulty (findSome?_invalidStyle?_eq_none.mp found n hn d hd)
    | some e => exact ⟨e, rfl⟩

end Viewsmith
