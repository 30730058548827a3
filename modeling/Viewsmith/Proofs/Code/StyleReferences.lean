import Mathlib.Data.List.Basic
import Viewsmith.Proofs.Code.GeneratedLines

/-!
# Style references

The references of the markup and the style table are written at different times, from a table that
grows in between. Yet every reference leads to one entry, which holds the declarations of the node
that refers to it, and every entry is referred to (`references_of_generate`).
-/

namespace Viewsmith

variable {options : ComponentOptions} {nodes : List Node}

/-- In a table without repeated keys, an entry is the only one with its key. -/
theorem filter_key_eq {table : List WrittenEntry} (nodup : (table.map WrittenEntry.key).Nodup)
    {e : WrittenEntry} (he : e ∈ table) : table.filter (fun f => f.key = e.key) = [e] := by
  induction table with
  | nil => cases he
  | cons first rest ih =>
      rw [List.map_cons, List.nodup_cons] at nodup
      obtain ⟨fresh, nodup⟩ := nodup
      rcases List.mem_cons.mp he with rfl | he
      · have others : rest.filter (fun f => f.key = e.key) = [] := by
          rw [List.filter_eq_nil_iff]
          intro f hf same
          exact fresh (of_decide_eq_true same ▸ List.mem_map_of_mem hf)
        rw [List.filter_cons_of_pos (by simp), others]
      · have different : first.key ≠ e.key := fun same => fresh (same ▸ List.mem_map_of_mem he)
        rw [List.filter_cons_of_neg (by simpa using different), ih nodup he]

theorem keyAmong_of_bare {n : Node} (bare : n.effectiveDeclarations options = []) :
    n.keyAmong options nodes = none := by
  rw [Node.keyAmong, Node.styleSet_eq_nil.mpr bare, keyIn_nil]

/-- The key of a node with declarations is that of the entry with these declarations. -/
theorem keyAmong_of_declared {n : Node} (hn : n ∈ nodes)
    (declared : n.effectiveDeclarations options ≠ []) :
    ∃ key, n.keyAmong options nodes = some key ∧
      ⟨key, n.styleSet options⟩ ∈ numberedEntries options.stylePrefix (nodeSets options nodes) := by
  have nonempty : n.styleSet options ≠ [] := mt Node.styleSet_eq_nil.mp declared
  have listed : n.styleSet options ∈ nodeSets options nodes :=
    mem_styleSets.mpr ⟨List.mem_map_of_mem hn, nonempty⟩
  refine ⟨_, keyIn_of_ne_nil nonempty, ?_⟩
  exact (mem_numberedEntries (nodup_styleSets _)).mpr ⟨listed, rfl⟩

theorem exists_reference {e : WrittenEntry}
    (he : e ∈ numberedEntries options.stylePrefix (nodeSets options nodes)) :
    ∃ n ∈ nodes, n.keyAmong options nodes = some e.key := by
  obtain ⟨listed, key⟩ := (mem_numberedEntries (nodup_styleSets _)).mp he
  obtain ⟨inside, nonempty⟩ := mem_styleSets.mp listed
  obtain ⟨n, hn, same⟩ := List.mem_map.mp inside
  refine ⟨n, hn, ?_⟩
  rw [Node.keyAmong, same, keyIn_of_ne_nil nonempty, key]
  rfl

/-- The keys of nodes, each where it first comes, are the keys of the table. -/
theorem eraseDups_keyAmong (options : ComponentOptions) (nodes : List Node) :
    (nodes.filterMap (Node.keyAmong options nodes)).eraseDups
      = (numberedEntries options.stylePrefix (nodeSets options nodes)).map WrittenEntry.key := by
  rw [keys_numberedEntries]
  refine Eq.trans ?_ (eraseDups_keys options.stylePrefix (nodes.map (Node.styleSet options)))
  rw [List.filterMap_map]
  rfl

/-- The references of a generated file and its style table agree. The markup is written with a key
for each node and the table after it. A node has no key exactly if it has no effective declarations,
and otherwise its key is that of one entry, which holds these declarations in the order of their
properties. Every entry is referred to, and the keys are distinct: they are numbered without gaps in
the order in which the nodes, parents before children, first use them. -/
theorem references_of_generate {settings : Settings} {design : Design} {code : String}
    (h : (generate settings design).result = .ok code) :
    let nodes := design.renderedNodes settings.component
    ∃ (statements : List Line) (styling : Styling),
      code = String.ofList (layOutLines settings.writer (statements
        ++ design.functionLines settings.component settings.writer.quoteStyle styling.keyOf
        ++ [⟨0, []⟩] ++ tableLines settings.writer.quoteStyle styling.table)) ∧
      (∀ n ∈ nodes, n.effectiveDeclarations settings.component = [] → styling.keyOf n = none) ∧
      (∀ n ∈ nodes, n.effectiveDeclarations settings.component ≠ [] →
        ∃ entry, styling.keyOf n = some entry.key ∧
          styling.table.filter (fun e => e.key = entry.key) = [entry] ∧
          entry.declarations.Perm (written (n.effectiveDeclarations settings.component)) ∧
          (entry.declarations.map Prod.fst).Pairwise (· < ·)) ∧
      (∀ e ∈ styling.table, ∃ n ∈ nodes, styling.keyOf n = some e.key) ∧
      (styling.table.map WrittenEntry.key).Nodup ∧
      styling.table.map WrittenEntry.key = (List.range styling.table.length).map (fun i =>
        camelName settings.component.stylePrefix ++ "_" ++ toString i) ∧
      (nodes.filterMap styling.keyOf).eraseDups = styling.table.map WrittenEntry.key := by
  intro nodes
  have distinct := nodup_keys_numberedEntries settings.component.stylePrefix
    (nodeSets settings.component nodes)
  refine ⟨_, design.styling settings.component, code_of_generate h, ?_, ?_, ?_, distinct, ?_, ?_⟩
  · intro n _ bare
    exact keyAmong_of_bare bare
  · intro n hn declared
    obtain ⟨key, found, listed⟩ := keyAmong_of_declared hn declared
    exact ⟨⟨key, n.styleSet settings.component⟩, found, filter_key_eq distinct listed,
      n.styleSet_perm settings.component, n.pairwise_styleSet settings.component⟩
  · intro e he
    exact exists_reference he
  · have keys := keys_numberedEntries settings.component.stylePrefix
      (nodeSets settings.component nodes)
    rw [← length_numberedEntries settings.component.stylePrefix] at keys
    exact keys
  · exact eraseDups_keyAmong settings.component nodes

/-- The file of the card is written with keys for its nodes and the table that has them. -/
theorem references_of_card :
    (generate {} cardDesign).result = .ok (String.ofList (layOutLines {} cardLines)) ∧
      ∃ (statements : List Line) (styling : Styling),
        String.ofList (layOutLines {} cardLines) = String.ofList (layOutLines {} (statements
          ++ cardDesign.functionLines {} .single styling.keyOf ++ [⟨0, []⟩]
          ++ tableLines .single styling.table)) ∧
        ((cardDesign.renderedNodes {}).filterMap styling.keyOf).eraseDups
          = styling.table.map WrittenEntry.key := by
  obtain ⟨statements, styling, code, _, _, _, _, _, order⟩ := references_of_generate generate_card
  exact ⟨generate_card, statements, styling, code, order⟩

end Viewsmith
