import Mathlib.Data.List.Basic
import Mathlib.Data.List.Induction
import Viewsmith.Proofs.Code.Emitters
import Viewsmith.Proofs.Text.Order

/-!
# Runs of imports

A host notes symbols one after the other, by themselves or by name, and the statements are written at
the end. What is noted then is told by the calls alone (`used_ofCalls`), and the pair that is reported
is the first one of the run that no package exports (`head?_unknown_ofCalls`). Without such a pair the
statements depend on nothing but the noted primitives (`statements_of_calls`).
-/

namespace Viewsmith

/-! ## Exported names -/

/-- Whether the package at a path exports a name. -/
def IsExported (path symbol : String) : Prop :=
  ∃ p : Primitive, p.package.path = path ∧ p.symbol = symbol

namespace Primitive

theorem mem_all (p : Primitive) : p ∈ all := by
  cases p <;> decide

theorem nodup_all : all.Nodup := by
  decide

theorem nodup_symbols : (all.map symbol).Nodup := by
  decide

theorem symbol_injective {p q : Primitive} (same : p.symbol = q.symbol) : p = q :=
  List.inj_on_of_nodup_map nodup_symbols (mem_all p) (mem_all q) same

theorem ofNames?_eq_some {path name : String} {p : Primitive} :
    ofNames? path name = some p ↔ p.package.path = path ∧ p.symbol = name := by
  constructor
  · intro found
    rw [ofNames?] at found
    have named := List.find?_some found
    exact of_decide_eq_true named
  · rintro ⟨rfl, rfl⟩
    cases p <;> decide

theorem ofNames?_eq_none {path name : String} :
    ofNames? path name = none ↔ ¬ IsExported path name := by
  rw [ofNames?, List.find?_eq_none]
  constructor
  · rintro absent ⟨p, exported⟩
    exact absent p (mem_all p) (decide_eq_true exported)
  · intro absent p _ exported
    exact absent ⟨p, of_decide_eq_true exported⟩

end Primitive

/-! ## Calls -/

inductive ImportCall : Type where
  | primitive (p : Primitive)
  | named (path symbol : String)
deriving DecidableEq, Repr

def ImportSet.call (s : ImportSet) : ImportCall → ImportSet
  | .primitive p => s.insert p
  | .named path symbol => s.insertNamed path symbol

def ImportSet.ofCalls (calls : List ImportCall) : ImportSet := calls.foldl ImportSet.call .empty

def Flags (calls : List ImportCall) (p : Primitive) : Prop :=
  .primitive p ∈ calls ∨ .named p.package.path p.symbol ∈ calls

def AllExported (calls : List ImportCall) : Prop :=
  ∀ path symbol, .named path symbol ∈ calls → IsExported path symbol

/-- Whether a pair is the first one among the calls that no package exports. -/
def IsFirstUnknown (calls : List ImportCall) (e : UnknownImport) : Prop :=
  ∃ before after, calls = before ++ .named e.path e.symbol :: after ∧ AllExported before ∧
    ¬ IsExported e.path e.symbol

/-- The pair of a call, if no package exports it. -/
def ImportCall.unknown? : ImportCall → Option UnknownImport
  | .primitive _ => none
  | .named path symbol =>
      if Primitive.ofNames? path symbol = none then some ⟨path, symbol⟩ else none

theorem ImportCall.unknown?_eq_some {call : ImportCall} {e : UnknownImport} :
    call.unknown? = some e ↔ call = .named e.path e.symbol ∧ ¬ IsExported e.path e.symbol := by
  cases call with
  | primitive p => simp [unknown?]
  | named path symbol =>
      rw [unknown?, ImportCall.named.injEq]
      constructor
      · intro found
        split at found
        · rename_i absent
          rw [← Option.some.inj found]
          exact ⟨⟨rfl, rfl⟩, Primitive.ofNames?_eq_none.mp absent⟩
        · cases found
      · rintro ⟨⟨rfl, rfl⟩, absent⟩
        rw [if_pos (Primitive.ofNames?_eq_none.mpr absent)]

theorem allExported_iff {calls : List ImportCall} :
    AllExported calls ↔ ∀ call ∈ calls, call.unknown? = none := by
  constructor
  · intro exported call inside
    rw [Option.eq_none_iff_forall_not_mem]
    intro e found
    obtain ⟨rfl, absent⟩ := ImportCall.unknown?_eq_some.mp found
    exact absent (exported _ _ inside)
  · intro none path symbol inside
    by_contra absent
    have found : (ImportCall.named path symbol).unknown? = some ⟨path, symbol⟩ :=
      ImportCall.unknown?_eq_some.mpr ⟨rfl, absent⟩
    rw [none _ inside] at found
    cases found

theorem isFirstUnknown_iff {calls : List ImportCall} {e : UnknownImport} :
    IsFirstUnknown calls e ↔ calls.findSome? ImportCall.unknown? = some e := by
  rw [List.findSome?_eq_some_iff]
  constructor
  · rintro ⟨before, after, rfl, exported, absent⟩
    exact ⟨before, _, after, rfl, ImportCall.unknown?_eq_some.mpr ⟨rfl, absent⟩,
      allExported_iff.mp exported⟩
  · rintro ⟨before, call, after, rfl, found, none⟩
    obtain ⟨rfl, absent⟩ := ImportCall.unknown?_eq_some.mp found
    exact ⟨before, after, rfl, allExported_iff.mpr none, absent⟩

/-! ## One call -/

namespace ImportSet

/-- A call flags the primitive that it gives, or names, and leaves the others as they are. -/
theorem used_call (s : ImportSet) (call : ImportCall) (p : Primitive) :
    (s.call call).used p = true ↔
      s.used p = true ∨ call = .primitive p ∨ call = .named p.package.path p.symbol := by
  have inserted (q : Primitive) : (s.insert q).used p = true ↔ s.used p = true ∨ p = q := by
    show (p == q || s.used p) = true ↔ _
    rw [Bool.or_eq_true, beq_iff_eq]
    exact or_comm
  cases call with
  | primitive q =>
      rw [call, inserted]
      simp [eq_comm (a := q) (b := p)]
  | named path symbol =>
      rw [call, insertNamed]
      cases known : Primitive.ofNames? path symbol with
      | some q =>
          obtain ⟨rfl, rfl⟩ := Primitive.ofNames?_eq_some.mp known
          rw [inserted]
          constructor
          · rintro (before | rfl)
            · exact Or.inl before
            · exact Or.inr (Or.inr rfl)
          · rintro (before | absurd | named)
            · exact Or.inl before
            · cases absurd
            · exact Or.inr (Primitive.symbol_injective (ImportCall.named.inj named).2.symm)
      | none =>
          have absent := Primitive.ofNames?_eq_none.mp known
          constructor
          · intro after
            left
            simp only at after
            split at after <;> exact after
          · rintro (before | absurd | named)
            · simp only
              split <;> exact before
            · cases absurd
            · obtain ⟨rfl, rfl⟩ := ImportCall.named.inj named
              exact absurd ⟨p, rfl, rfl⟩ absent

/-- The first unknown pair stays the first one; a call can only be the first to give one. -/
theorem head?_unknown_call (s : ImportSet) (call : ImportCall) :
    (s.call call).unknown.head? = s.unknown.head?.or call.unknown? := by
  cases call with
  | primitive p => exact (Option.or_none).symm
  | named path symbol =>
      rw [call, insertNamed, ImportCall.unknown?]
      cases known : Primitive.ofNames? path symbol with
      | some p => exact (Option.or_none).symm
      | none =>
          rw [if_pos rfl]
          simp only
          split
          · rename_i kept
            cases pairs : s.unknown with
            | nil =>
                rw [pairs] at kept
                cases kept
            | cons first rest => rfl
          · exact List.head?_append

/-! ## Runs of calls -/

theorem ofCalls_append_singleton (calls : List ImportCall) (call : ImportCall) :
    ofCalls (calls ++ [call]) = (ofCalls calls).call call := by
  rw [ofCalls, List.foldl_append]
  rfl

/-- After a run, the flagged primitives are those that one of the calls gave or named. -/
theorem used_ofCalls (calls : List ImportCall) (p : Primitive) :
    (ofCalls calls).used p = true ↔ Flags calls p := by
  induction calls using List.reverseRecOn with
  | nil => simp [ofCalls, empty, Flags]
  | append_singleton calls call ih =>
      rw [ofCalls_append_singleton, used_call, ih, Flags, Flags]
      simp only [List.mem_append, List.mem_singleton, eq_comm (b := call)]
      tauto

theorem head?_unknown_ofCalls (calls : List ImportCall) :
    (ofCalls calls).unknown.head? = calls.findSome? ImportCall.unknown? := by
  induction calls using List.reverseRecOn with
  | nil => rfl
  | append_singleton calls call ih =>
      rw [ofCalls_append_singleton, head?_unknown_call, ih, List.findSome?_append,
        List.findSome?_singleton]

theorem unknown_ofCalls_eq_nil {calls : List ImportCall} :
    (ofCalls calls).unknown = [] ↔ AllExported calls := by
  rw [← List.head?_eq_none_iff, head?_unknown_ofCalls, List.findSome?_eq_none_iff, allExported_iff]

/-- Two runs without an unknown pair that flag the same primitives end alike. -/
theorem ofCalls_congr {calls others : List ImportCall} (exported : AllExported calls)
    (othersExported : AllExported others) (same : ∀ p, Flags others p ↔ Flags calls p) :
    ofCalls others = ofCalls calls := by
  have used : (ofCalls others).used = (ofCalls calls).used := by
    funext p
    rw [Bool.eq_iff_iff, used_ofCalls, used_ofCalls]
    exact same p
  have unknown : (ofCalls others).unknown = (ofCalls calls).unknown := by
    rw [unknown_ofCalls_eq_nil.mpr exported, unknown_ofCalls_eq_nil.mpr othersExported]
  calc ofCalls others
      = ⟨(ofCalls others).used, (ofCalls others).unknown⟩ := rfl
    _ = ⟨(ofCalls calls).used, (ofCalls calls).unknown⟩ := by rw [used, unknown]

/-! ## Statements -/

theorem mem_toList {s : ImportSet} {p : Primitive} : p ∈ s.toList ↔ s.used p = true := by
  rw [toList, List.mem_filter]
  exact and_iff_right (Primitive.mem_all p)

theorem nodup_toList (s : ImportSet) : s.toList.Nodup :=
  Primitive.nodup_all.filter _

theorem mem_symbols {s : ImportSet} {package : Package} {name : String} :
    name ∈ s.symbols package ↔ ∃ p, s.used p = true ∧ p.package = package ∧ p.symbol = name := by
  rw [symbols, (sortByKey_perm id _).mem_iff, List.mem_map]
  simp only [List.mem_filter, mem_toList, decide_eq_true_eq, and_assoc]

theorem pairwise_symbols (s : ImportSet) (package : Package) :
    (s.symbols package).Pairwise (· < ·) := by
  have noted : (s.toList.filter fun p => p.package = package).Sublist Primitive.all :=
    (List.filter_sublist (l := s.toList)).trans List.filter_sublist
  have distinct : (((s.toList.filter fun p => p.package = package).map Primitive.symbol).map id).Nodup := by
    rw [List.map_id]
    exact Primitive.nodup_symbols.sublist (noted.map Primitive.symbol)
  exact pairwise_lt_sortByKey distinct

/-- Statements that cannot be written leave the buffer as it is. -/
theorem writeStatements_eq_error {s : ImportSet} {b : CodeBuffer} {failure : ImportFailure} :
    s.writeStatements b = .error failure ↔
      s.unknown.head? = some failure.error ∧ failure.buffer = b := by
  obtain ⟨error, buffer⟩ := failure
  rw [writeStatements]
  cases s.unknown with
  | nil => simp
  | cons first rest => simp [eq_comm]

end ImportSet

/-- After any run of calls, a primitive is flagged exactly if a call gave it or named it, and the size
is the number of flagged primitives. Writing the statements fails exactly if a pair of the run is
exported by no package: it names the first such pair and writes nothing, whatever has been written
before. Otherwise runs that flag the same primitives, such as the same calls in another order or
number, write the same; and there is one statement for each package of which a primitive is flagged,
with the names of these, each once and in lexicographic order. -/
theorem statements_of_calls (calls : List ImportCall) :
    let s := ImportSet.ofCalls calls
    (∀ p, s.used p = true ↔ Flags calls p) ∧
    (∃ flagged : List Primitive, flagged.Nodup ∧ (∀ p, p ∈ flagged ↔ Flags calls p) ∧
      s.size = flagged.length) ∧
    (∀ b, (∃ failure, s.writeStatements b = .error failure) ↔
      ∃ path symbol, .named path symbol ∈ calls ∧ ¬ IsExported path symbol) ∧
    (∀ b failure, s.writeStatements b = .error failure ↔
      IsFirstUnknown calls failure.error ∧ failure.buffer = b) ∧
    (AllExported calls →
      (∀ others, AllExported others → (∀ p, Flags others p ↔ Flags calls p) →
        ∀ b, (ImportSet.ofCalls others).writeStatements b = s.writeStatements b) ∧
      (∀ others, (∀ call, call ∈ others ↔ call ∈ calls) →
        ∀ b, (ImportSet.ofCalls others).writeStatements b = s.writeStatements b) ∧
      ∃ names : Package → List String,
        (∀ b, b.atLineStart = true → b.level = 0 →
          let statement := fun package => importLine b.options.quoteStyle package (names package)
          s.writeStatements b = .ok (b.addLines
            ((if names .react = [] then [] else [statement .react])
              ++ if names .reactNative = [] then [] else [statement .reactNative]))) ∧
        (∀ package name, name ∈ names package ↔
          ∃ p, Flags calls p ∧ p.package = package ∧ p.symbol = name) ∧
        ∀ package, (names package).Pairwise (· < ·)) := by
  intro s
  have used : ∀ p, s.used p = true ↔ Flags calls p := ImportSet.used_ofCalls calls
  have error (b : CodeBuffer) (failure : ImportFailure) :
      s.writeStatements b = .error failure ↔
        IsFirstUnknown calls failure.error ∧ failure.buffer = b := by
    rw [ImportSet.writeStatements_eq_error, ImportSet.head?_unknown_ofCalls, isFirstUnknown_iff]
  refine ⟨used, ⟨s.toList, s.nodup_toList, ?_, rfl⟩, ?_, error, ?_⟩
  · intro p
    rw [ImportSet.mem_toList, used]
  · intro b
    constructor
    · rintro ⟨failure, failed⟩
      obtain ⟨⟨before, after, rfl, -, absent⟩, -⟩ := (error b failure).mp failed
      exact ⟨failure.error.path, failure.error.symbol, by simp, absent⟩
    · rintro ⟨path, symbol, inside, absent⟩
      have some : ¬ AllExported calls := fun exported => absent (exported path symbol inside)
      rw [← ImportSet.unknown_ofCalls_eq_nil] at some
      obtain ⟨e, rest, pairs⟩ := List.exists_cons_of_ne_nil some
      refine ⟨⟨e, b⟩, ImportSet.writeStatements_eq_error.mpr ⟨?_, rfl⟩⟩
      rw [pairs]
      rfl
  · intro exported
    have alike (others : List ImportCall) (othersExported : AllExported others)
        (same : ∀ p, Flags others p ↔ Flags calls p) (b : CodeBuffer) :
        (ImportSet.ofCalls others).writeStatements b = s.writeStatements b := by
      rw [ImportSet.ofCalls_congr exported othersExported same]
    refine ⟨alike, ?_, s.symbols, ?_, ?_, s.pairwise_symbols⟩
    · intro others members
      apply alike others
      · intro path symbol inside
        exact exported path symbol ((members _).mp inside)
      · intro p
        rw [Flags, Flags, members, members]
    · intro b start level
      rw [ImportSet.writeStatements_addLines (ImportSet.unknown_ofCalls_eq_nil.mpr exported) start
        level, importLines_eq]
    · intro package name
      rw [ImportSet.mem_symbols]
      simp only [used]

/-- A run that gives `Text` twice and names `useState` writes what it writes with `Text` once. With a
name that is unknown, it leaves every buffer as it is. -/
theorem statements_of_named_useState :
    AllExported [.primitive .text, .named "react" "useState", .primitive .text] ∧
      (ImportSet.ofCalls [.primitive .text, .named "react" "useState", .primitive .text]).size = 2 ∧
      (∀ b, (ImportSet.ofCalls [.primitive .text, .named "react" "useState"]).writeStatements b
        = (ImportSet.ofCalls [.primitive .text, .named "react" "useState",
            .primitive .text]).writeStatements b) ∧
      ∀ b, (ImportSet.ofCalls [.primitive .text, .named "react" "useEffect",
          .named "" "View"]).writeStatements b = .error ⟨⟨"react", "useEffect"⟩, b⟩ := by
  have exported :
      AllExported [.primitive .text, .named "react" "useState", .primitive .text] := by
    rw [allExported_iff]
    decide
  have unknown : IsFirstUnknown [.primitive .text, .named "react" "useEffect", .named "" "View"]
      ⟨"react", "useEffect"⟩ := by
    rw [isFirstUnknown_iff]
    decide
  obtain ⟨-, -, -, -, written⟩ :=
    statements_of_calls [.primitive .text, .named "react" "useState", .primitive .text]
  obtain ⟨-, -, -, refused, -⟩ :=
    statements_of_calls [.primitive .text, .named "react" "useEffect", .named "" "View"]
  obtain ⟨-, repeated, -⟩ := written exported
  exact ⟨exported, by decide, repeated _ (by simp [or_comm]),
    fun b => (refused b _).mpr ⟨unknown, rfl⟩⟩

end Viewsmith
