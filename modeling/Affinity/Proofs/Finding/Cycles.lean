import Mathlib.Data.Finset.Card
import Affinity.Proofs.Finding.Reachability
import Affinity.Proofs.Finding.Resolution
import Affinity.Proofs.Order.Sorting
import Affinity.Proofs.Scalar.Exact
import Affinity.Proofs.Table.Laws

/-!
# Cycles of imports

Nodes that can be reached from each other form classes, the strongly connected components. The
cycles of a graph are its classes of at least two nodes, each found at its least node. Since the
files that imports resolve to are files of the repository, this describes the reported cycles for
every list of files.

* `Graph.mem_cycles_iff` — the cycles are the components with at least two nodes.
* `Graph.cycles_eq_nil_iff` — a graph without steps from a node to itself has no cycle exactly if
  it is acyclic.
* `DependencyReport.ofFiles_listsCycles` — the cycles of a report are those of the imports.
-/

namespace Affinity

open Relation

/-! ## Components -/

namespace Graph

/-- Each of two nodes can be reached from the other. -/
def Connected (g : Graph) (i j : Nat) : Prop :=
  ReflTransGen g.Edge i j ∧ ReflTransGen g.Edge j i

theorem Connected.refl {g : Graph} (i : Nat) : g.Connected i i := ⟨.refl, .refl⟩

theorem Connected.symm {g : Graph} {i j : Nat} (h : g.Connected i j) : g.Connected j i :=
  ⟨h.2, h.1⟩

theorem Connected.trans {g : Graph} {i j k : Nat} (h : g.Connected i j) (h' : g.Connected j k) :
    g.Connected i k :=
  ⟨h.1.trans h'.1, h'.2.trans h.2⟩

theorem connected_iff {g : Graph} {i j : Nat} :
    g.Connected i j ↔ i = j ∨ TransGen g.Edge i j ∧ TransGen g.Edge j i := by
  rw [Connected, reflTransGen_iff_eq_or_transGen, reflTransGen_iff_eq_or_transGen,
    eq_comm (a := j), or_and_left]

/-- The nodes connected to a node, in ascending order. -/
def component (g : Graph) (i : Nat) : List Nat :=
  (List.range g.size).filter fun j =>
    i = j || ((g.reachable i).getD j false && (g.reachable j).getD i false)

theorem mem_component_iff {g : Graph} {i j : Nat} :
    j ∈ g.component i ↔ j < g.size ∧ g.Connected i j := by
  rw [component, List.mem_filter, List.mem_range, connected_iff, Bool.or_eq_true,
    Bool.and_eq_true, reachable_iff, reachable_iff, decide_eq_true_iff]

theorem self_mem_component {g : Graph} {i : Nat} (hi : i < g.size) : i ∈ g.component i :=
  mem_component_iff.2 ⟨hi, .refl i⟩

theorem pairwise_component (g : Graph) (i : Nat) : (g.component i).Pairwise (· < ·) :=
  List.pairwise_lt_range.filter _

theorem nodup_component (g : Graph) (i : Nat) : (g.component i).Nodup :=
  (g.pairwise_component i).imp Nat.ne_of_lt

/-- Connected nodes have one component. -/
theorem component_eq_of_connected {g : Graph} {i j : Nat} (h : g.Connected i j) :
    g.component i = g.component j := by
  refine List.Perm.eq_of_pairwise (fun a b _ _ hab hba => absurd hab (Nat.lt_asymm hba))
    (g.pairwise_component i) (g.pairwise_component j) ?_
  refine (List.perm_ext_iff_of_nodup (g.nodup_component i) (g.nodup_component j)).2 fun k => ?_
  rw [mem_component_iff, mem_component_iff]
  exact and_congr_right fun _ => ⟨h.symm.trans, h.trans⟩

/-- A component has at least two nodes if its node is connected to another one. -/
theorem two_le_length_component_iff {g : Graph} {i : Nat} (hi : i < g.size) :
    2 ≤ (g.component i).length ↔ ∃ j < g.size, j ≠ i ∧ g.Connected i j := by
  rw [← List.toFinset_card_of_nodup (g.nodup_component i)]
  constructor
  · intro hlength
    obtain ⟨j, hj, hne⟩ := Finset.exists_mem_ne hlength i
    obtain ⟨hlt, hconnected⟩ := mem_component_iff.1 (List.mem_toFinset.1 hj)
    exact ⟨j, hlt, hne, hconnected⟩
  · rintro ⟨j, hlt, hne, hconnected⟩
    exact Finset.one_lt_card.2 ⟨j, List.mem_toFinset.2 (mem_component_iff.2 ⟨hlt, hconnected⟩), i,
      List.mem_toFinset.2 (self_mem_component hi), hne⟩

/-! ## The cycles of a graph -/

theorem cycles_eq (g : Graph) :
    g.cycles = (List.range g.size).filterMap fun i =>
      if (g.component i).head? = some i && 2 ≤ (g.component i).length then some (g.component i)
      else none := by
  have hreach : ∀ i, i < g.size →
      ((Array.range g.size).map g.reachable).getD i #[] = g.reachable i := by
    intro i hi
    simp [hi]
  refine List.filterMap_congr fun i hi => ?_
  have hmembers : ((List.range g.size).filter fun j => i = j ||
      ((((Array.range g.size).map g.reachable).getD i #[]).getD j false &&
        (((Array.range g.size).map g.reachable).getD j #[]).getD i false)) = g.component i := by
    refine List.filter_congr fun j hj => ?_
    rw [hreach i (List.mem_range.1 hi), hreach j (List.mem_range.1 hj)]
  simp only [hmembers]

/-- **The cycles of a graph** are its components with at least two nodes. -/
theorem mem_cycles_iff {g : Graph} {members : List Nat} :
    members ∈ g.cycles ↔ ∃ i < g.size, members = g.component i ∧ 2 ≤ members.length := by
  rw [cycles_eq, List.mem_filterMap]
  constructor
  · rintro ⟨i, hi, hmembers⟩
    rw [Option.ite_none_right_eq_some, Bool.and_eq_true, decide_eq_true_iff,
      decide_eq_true_iff] at hmembers
    obtain ⟨⟨-, hlength⟩, hmembers⟩ := hmembers
    rw [Option.some.inj hmembers] at hlength
    exact ⟨i, List.mem_range.1 hi, (Option.some.inj hmembers).symm, hlength⟩
  · rintro ⟨i, hi, rfl, hlength⟩
    -- the component is reported at its least node
    obtain ⟨first, rest, hcomponent⟩ : ∃ first rest, g.component i = first :: rest :=
      List.exists_cons_of_length_pos (by omega)
    have hfirst : first ∈ g.component i := by simp [hcomponent]
    obtain ⟨hlt, hconnected⟩ := mem_component_iff.1 hfirst
    refine ⟨first, List.mem_range.2 hlt, ?_⟩
    rw [← component_eq_of_connected hconnected, if_pos]
    simp [hcomponent] at hlength ⊢
    exact hlength

-- nodes 0 and 2 reach each other; node 1 is on the way there, node 3 leads to itself only
example : cycles #[[1, 2], [2], [0], [3]] = [[0, 1, 2]] := by decide +kernel

/-- Two cycles have no node in common. -/
theorem pairwise_cycles (g : Graph) : g.cycles.Pairwise List.Disjoint := by
  rw [cycles_eq, List.pairwise_filterMap]
  refine List.nodup_range.imp fun {i j} hne members hi others hj k hk hk' => hne ?_
  simp only [Option.ite_none_right_eq_some, Bool.and_eq_true, decide_eq_true_iff,
    Option.some.injEq] at hi hj
  obtain ⟨⟨hihead, -⟩, rfl⟩ := hi
  obtain ⟨⟨hjhead, -⟩, rfl⟩ := hj
  have hconnected : g.Connected i j :=
    (mem_component_iff.1 hk).2.trans (mem_component_iff.1 hk').2.symm
  rw [component_eq_of_connected hconnected, hjhead] at hihead
  exact (Option.some.inj hihead).symm

/-- Two different nodes are on one cycle exactly if they are connected. -/
theorem exists_mem_cycles_iff {g : Graph} {i j : Nat} (hi : i < g.size) (hj : j < g.size)
    (hne : i ≠ j) : (∃ members ∈ g.cycles, i ∈ members ∧ j ∈ members) ↔ g.Connected i j := by
  constructor
  · rintro ⟨members, hmembers, himem, hjmem⟩
    obtain ⟨k, -, rfl, -⟩ := mem_cycles_iff.1 hmembers
    exact (mem_component_iff.1 himem).2.symm.trans (mem_component_iff.1 hjmem).2
  · intro hconnected
    have hlength : 2 ≤ (g.component i).length :=
      (two_le_length_component_iff hi).2 ⟨j, hj, hne.symm, hconnected⟩
    exact ⟨g.component i, mem_cycles_iff.2 ⟨i, hi, rfl, hlength⟩, self_mem_component hi,
      mem_component_iff.2 ⟨hj, hconnected⟩⟩

theorem lt_size_of_mem_cycles {g : Graph} {members : List Nat} {i : Nat}
    (hmembers : members ∈ g.cycles) (hi : i ∈ members) : i < g.size := by
  obtain ⟨k, -, rfl, -⟩ := mem_cycles_iff.1 hmembers
  exact (mem_component_iff.1 hi).1

/-- From each node on a cycle there is a step. -/
theorem exists_edge_of_mem_cycles {g : Graph} {members : List Nat} {i : Nat}
    (hmembers : members ∈ g.cycles) (hi : i ∈ members) : ∃ j, g.Edge i j := by
  obtain ⟨k, -, rfl, hlength⟩ := mem_cycles_iff.1 hmembers
  obtain ⟨hlt, hconnected⟩ := mem_component_iff.1 hi
  rw [component_eq_of_connected hconnected, two_le_length_component_iff hlt] at hlength
  obtain ⟨j, -, hne, hij, -⟩ := hlength
  rcases hij.cases_head with he | ⟨next, hedge, -⟩
  · exact absurd he.symm hne
  · exact ⟨next, hedge⟩

/-- **A graph has no cycle** exactly if no path leads from a node to itself, provided that no step
does. -/
theorem cycles_eq_nil_iff {g : Graph} (hloop : ∀ i, ¬ g.Edge i i) :
    g.cycles = [] ↔ ∀ i, ¬ TransGen g.Edge i i := by
  constructor
  · intro hnil i hpath
    obtain ⟨j, hedge, hback⟩ := TransGen.head'_iff.1 hpath
    have hne : i ≠ j := fun he => hloop i (he ▸ hedge)
    have hconnected : g.Connected i j := ⟨.single hedge, hback⟩
    obtain ⟨members, hmembers, -⟩ :=
      (exists_mem_cycles_iff hedge.lt_size hedge.2 hne).2 hconnected
    simp [hnil] at hmembers
  · intro hacyclic
    refine List.eq_nil_iff_forall_not_mem.2 fun members hmembers => ?_
    obtain ⟨i, hi, rfl, hlength⟩ := mem_cycles_iff.1 hmembers
    obtain ⟨j, -, hne, hconnected⟩ := (two_le_length_component_iff hi).1 hlength
    rcases connected_iff.1 hconnected with he | ⟨hij, hji⟩
    · exact hne he.symm
    · exact hacyclic i (hij.trans hji)

end Graph

/-! ## The graph of the files -/

namespace DependencyReport

/-- One of the imports of the file at place `i` means the file at another place `j`. -/
def Imports (files : List FileFacts) (i j : Nat) : Prop :=
  ∃ f, files[i]? = some f ∧ j ≠ i ∧
    ∃ target ∈ f.imports, (SuffixIndex.ofPaths (files.map (·.path))).resolve target = some j

theorem mem_successors_iff {i j : Nat} {imports : List (Option Nat)} :
    j ∈ successors i imports ↔ j ≠ i ∧ some j ∈ imports := by
  rw [successors, List.mem_eraseDups, List.mem_filter, List.mem_filterMap, bne_iff_ne, and_comm]
  simp

@[simp] theorem size_graphOf (files : List FileFacts) : (graphOf files).size = files.length := by
  simp [graphOf, resolvedImports]

theorem getD_graphOf (files : List FileFacts) (i : Nat) :
    (graphOf files).getD i [] = (files[i]?.map fun f => successors i
      (f.imports.map (SuffixIndex.ofPaths (files.map (·.path))).resolve)).getD [] := by
  simp [graphOf, resolvedImports, List.getElem?_zipIdx]
  rfl

/-- The steps of the graph are the imports between files. -/
theorem edge_graphOf (files : List FileFacts) : (graphOf files).Edge = Imports files := by
  funext i j
  rw [Graph.Edge, getD_graphOf, size_graphOf, eq_iff_iff, Imports]
  cases hf : files[i]? with
  | none => simp
  | some f =>
    simp only [Option.map_some, Option.getD_some, mem_successors_iff, List.mem_map,
      Option.some.injEq, exists_eq_left']
    refine ⟨fun h => h.1, fun h => ⟨h, ?_⟩⟩
    obtain ⟨-, target, -, htarget⟩ := h
    simpa using SuffixIndex.resolve_lt htarget

/-! ## The cycles of a report -/

/-- The path of the file at a place. -/
def pathAt (files : List FileFacts) (i : Nat) : String :=
  (files.map (·.path)).toArray.getD i ""

theorem pathAt_eq {files : List FileFacts} {i : Nat} {f : FileFacts} (hf : files[i]? = some f) :
    pathAt files i = f.path := by
  simp [pathAt, hf]

theorem pathAt_inj {files : List FileFacts} (hpaths : (files.map (·.path)).Nodup) {i j : Nat}
    (hi : i < files.length) (hj : j < files.length) (h : pathAt files i = pathAt files j) :
    i = j := by
  have hi' : i < (files.map (·.path)).length := by rwa [List.length_map]
  have hj' : j < (files.map (·.path)).length := by rwa [List.length_map]
  have hpath : (files.map (·.path))[i] = (files.map (·.path))[j] := by
    simpa [pathAt, hi, hj] using h
  exact (List.Nodup.getElem_inj_iff hpaths).1 hpath

theorem mem_cyclePaths_iff {files : List FileFacts} {entry : List String} :
    entry ∈ cyclePaths files ↔
      ∃ members ∈ (graphOf files).cycles, pathsAscending (members.map (pathAt files)) = entry := by
  rw [cyclePaths, List.mem_mergeSort, List.mem_map]
  rfl

theorem cyclePaths_eq_nil_iff (files : List FileFacts) :
    cyclePaths files = [] ↔ (graphOf files).cycles = [] := by
  rw [← List.length_eq_zero_iff, cyclePaths, List.length_mergeSort, List.length_map,
    List.length_eq_zero_iff]

/-- The files on a cycle are those whose places are on the cycle of the graph. -/
theorem path_mem_iff {files : List FileFacts} (hpaths : (files.map (·.path)).Nodup)
    {members : List Nat} (hmembers : members ∈ (graphOf files).cycles) {i : Nat} {f : FileFacts}
    (hf : files[i]? = some f) :
    f.path ∈ pathsAscending (members.map (pathAt files)) ↔ i ∈ members := by
  rw [pathsAscending, List.mem_mergeSort, List.mem_map]
  constructor
  · rintro ⟨j, hj, hpath⟩
    have hlt : j < files.length := by simpa using Graph.lt_size_of_mem_cycles hmembers hj
    rw [← pathAt_eq hf] at hpath
    rwa [← pathAt_inj hpaths hlt (List.getElem?_eq_some_iff.1 hf).1 hpath]
  · exact fun hi => ⟨i, hi, pathAt_eq hf⟩

theorem nodup_cyclePaths_entry {files : List FileFacts} (hpaths : (files.map (·.path)).Nodup)
    {members : List Nat} (hmembers : members ∈ (graphOf files).cycles) :
    (members.map (pathAt files)).Nodup := by
  refine List.Nodup.map_on (fun i hi j hj h => ?_) ?_
  · have hlt : ∀ k ∈ members, k < files.length := fun k hk => by
      simpa using Graph.lt_size_of_mem_cycles hmembers hk
    exact pathAt_inj hpaths (hlt i hi) (hlt j hj) h
  · obtain ⟨k, -, rfl, -⟩ := Graph.mem_cycles_iff.1 hmembers
    exact Graph.nodup_component _ k

theorem disjoint_cyclePaths {files : List FileFacts} (hpaths : (files.map (·.path)).Nodup) :
    (cyclePaths files).Pairwise List.Disjoint := by
  rw [cyclePaths, (List.mergeSort_perm _ _).pairwise_iff fun h => h.symm, List.pairwise_map]
  refine (Graph.pairwise_cycles _).imp_of_mem fun {a b} ha hb hdisjoint path hpa hpb => ?_
  obtain ⟨i, hi, rfl⟩ := List.mem_map.1 (List.mem_mergeSort.1 hpa)
  obtain ⟨j, hj, hpath⟩ := List.mem_map.1 (List.mem_mergeSort.1 hpb)
  have hlti : i < files.length := by simpa using Graph.lt_size_of_mem_cycles ha hi
  have hltj : j < files.length := by simpa using Graph.lt_size_of_mem_cycles hb hj
  exact hdisjoint hi (pathAt_inj hpaths hltj hlti hpath ▸ hj)

/-- Two files are on one cycle exactly if they are connected in the graph. -/
theorem exists_mem_cyclePaths_iff {files : List FileFacts} (hpaths : (files.map (·.path)).Nodup)
    {i j : Nat} {a b : FileFacts} (ha : files[i]? = some a) (hb : files[j]? = some b)
    (hne : i ≠ j) :
    (∃ entry ∈ cyclePaths files, a.path ∈ entry ∧ b.path ∈ entry) ↔
      (graphOf files).Connected i j := by
  have hi : i < (graphOf files).size := by simpa using (List.getElem?_eq_some_iff.1 ha).1
  have hj : j < (graphOf files).size := by simpa using (List.getElem?_eq_some_iff.1 hb).1
  rw [← Graph.exists_mem_cycles_iff hi hj hne]
  constructor
  · rintro ⟨entry, hentry, hai, hbj⟩
    obtain ⟨members, hmembers, rfl⟩ := mem_cyclePaths_iff.1 hentry
    exact ⟨members, hmembers, (path_mem_iff hpaths hmembers ha).1 hai,
      (path_mem_iff hpaths hmembers hb).1 hbj⟩
  · rintro ⟨members, hmembers, hai, hbj⟩
    exact ⟨_, mem_cyclePaths_iff.2 ⟨members, hmembers, rfl⟩,
      (path_mem_iff hpaths hmembers ha).2 hai, (path_mem_iff hpaths hmembers hb).2 hbj⟩

theorem two_le_length_of_mem_cyclePaths {files : List FileFacts} {entry : List String}
    (hentry : entry ∈ cyclePaths files) : 2 ≤ entry.length := by
  obtain ⟨members, hmembers, rfl⟩ := mem_cyclePaths_iff.1 hentry
  obtain ⟨i, -, -, hlength⟩ := Graph.mem_cycles_iff.1 hmembers
  rwa [pathsAscending, List.length_mergeSort, List.length_map]

theorem mem_paths_of_mem_cyclePaths {files : List FileFacts} {entry : List String} {path : String}
    (hentry : entry ∈ cyclePaths files) (hpath : path ∈ entry) : path ∈ files.map (·.path) := by
  obtain ⟨members, hmembers, rfl⟩ := mem_cyclePaths_iff.1 hentry
  obtain ⟨i, hi, rfl⟩ := List.mem_map.1 (List.mem_mergeSort.1 hpath)
  have hlt : i < files.length := by simpa using Graph.lt_size_of_mem_cycles hmembers hi
  rw [pathAt_eq (List.getElem?_eq_getElem hlt)]
  exact List.mem_map_of_mem (List.getElem_mem hlt)

/-- A cycle has members, so it is not disjoint from itself. -/
theorem nodup_cyclePaths {files : List FileFacts} (hpaths : (files.map (·.path)).Nodup) :
    (cyclePaths files).Nodup := by
  refine (disjoint_cyclePaths hpaths).imp_of_mem fun {a b} ha _ hdisjoint he => ?_
  have hpos : 0 < a.length := Nat.zero_lt_of_lt (two_le_length_of_mem_cyclePaths ha)
  obtain ⟨path, hpath⟩ := List.exists_mem_of_length_pos hpos
  exact hdisjoint hpath (he ▸ hpath)

/-- A file on a cycle imports another file. -/
theorem exists_imports_of_mem_cyclePaths {files : List FileFacts}
    (hpaths : (files.map (·.path)).Nodup) {entry : List String} {i : Nat} {f : FileFacts}
    (hentry : entry ∈ cyclePaths files) (hf : files[i]? = some f) (hmem : f.path ∈ entry) :
    ∃ j, Imports files i j := by
  obtain ⟨members, hmembers, rfl⟩ := mem_cyclePaths_iff.1 hentry
  rw [← edge_graphOf]
  exact Graph.exists_edge_of_mem_cycles hmembers ((path_mem_iff hpaths hmembers hf).1 hmem)

/-- What a list of cycles has to be for the imports of some files. -/
structure ListsCycles (files : List FileFacts) (cycles : List (List String)) : Prop where
  /-- Two files are together on a cycle exactly if imports lead from each to the other. -/
  together : ∀ i j a b, files[i]? = some a → files[j]? = some b → i ≠ j →
    ((∃ entry ∈ cycles, a.path ∈ entry ∧ b.path ∈ entry) ↔
      ReflTransGen (Imports files) i j ∧ ReflTransGen (Imports files) j i)
  two_le : ∀ entry ∈ cycles, 2 ≤ entry.length
  paths : ∀ entry ∈ cycles, ∀ path ∈ entry, path ∈ files.map (·.path)
  /-- No file is on two cycles. -/
  disjoint : cycles.Pairwise List.Disjoint
  /-- The paths of a cycle ascend. -/
  ascending : ∀ entry ∈ cycles, entry.Pairwise fun a b => compare a b = .lt
  /-- The cycles ascend. -/
  sorted : cycles.Pairwise fun a b => compare a b = .lt
  acyclic : cycles = [] ↔ ∀ i, ¬ TransGen (Imports files) i i
  /-- A file whose imports mean no file but itself is on no cycle. -/
  alone : ∀ i f, files[i]? = some f →
    (∀ target ∈ f.imports, ∀ j,
      (SuffixIndex.ofPaths (files.map (·.path))).resolve target = some j → j = i) →
    ∀ entry ∈ cycles, f.path ∉ entry

/-- **The cycles of a report** are the strongly connected components with at least two files of the
graph of imports, in their order. -/
theorem ofFiles_listsCycles {K : Type} [Scalar K] (files : List FileFacts)
    (hpaths : (files.map (·.path)).Nodup) :
    ListsCycles files (ofFiles files : DependencyReport K).cycles := by
  have hcycles : (ofFiles files : DependencyReport K).cycles = cyclePaths files := rfl
  rw [hcycles]
  constructor
  case together =>
    intro i j a b ha hb hne
    rw [exists_mem_cyclePaths_iff hpaths ha hb hne, Graph.Connected, edge_graphOf]
  case two_le => exact fun entry => two_le_length_of_mem_cyclePaths
  case paths => exact fun entry hentry path => mem_paths_of_mem_cyclePaths hentry
  case disjoint => exact disjoint_cyclePaths hpaths
  case ascending =>
    intro entry hentry
    obtain ⟨members, hmembers, rfl⟩ := mem_cyclePaths_iff.1 hentry
    exact pairwise_mergeSort_lt (nodup_cyclePaths_entry hpaths hmembers)
  case sorted =>
    exact pairwise_mergeSort_lt ((List.mergeSort_perm _ _).nodup_iff.1 (nodup_cyclePaths hpaths))
  case acyclic =>
    have hloop : ∀ i, ¬ (graphOf files).Edge i i := by
      intro i hi
      rw [edge_graphOf] at hi
      obtain ⟨f, -, hne, -⟩ := hi
      exact hne rfl
    rw [cyclePaths_eq_nil_iff, Graph.cycles_eq_nil_iff hloop, edge_graphOf]
  case alone =>
    intro i f hf halone entry hentry hmem
    obtain ⟨j, f', hf', hne, target, htarget, hresolve⟩ :=
      exists_imports_of_mem_cyclePaths hpaths hentry hf hmem
    rw [hf] at hf'
    exact hne (halone target (Option.some.inj hf' ▸ htarget) j hresolve)

/-- Two files that import each other, and one that imports itself. -/
theorem ofFiles_listsCycles_three_files :
    let files : List FileFacts :=
      [{ path := "a.py", language := .python, imports := ["b"] },
        { path := "b.py", language := .python, imports := ["os", "a"] },
        { path := "c.py", language := .python, imports := ["c"] }]
    (files.map (·.path)).Nodup ∧ Imports files 0 1 ∧ Imports files 1 0 ∧
      ListsCycles files (ofFiles files : DependencyReport ℚ).cycles := by
  intro files
  have hpaths : (files.map (·.path)).Nodup := by decide
  refine ⟨hpaths, ?_, ?_, ofFiles_listsCycles files hpaths⟩
  · exact ⟨_, rfl, by decide, "b", by decide, by decide +kernel⟩
  · exact ⟨_, rfl, by decide, "a", by decide, by decide +kernel⟩

end DependencyReport

end Affinity
