import Mathlib
import Affinity.Proofs.Finding.Counting
import Affinity.Proofs.Finding.Cycles

/-!
# How many imports and edges there are

Every import is counted once, as one of a file of the repository or as one from outside. The edges
of the graph are pairs of files, so it does not matter how often a file imports another one, and a
file that imports itself adds none. They are counted node by node.

* `DependencyReport.encard_imports` — the imports of all files, counted by their places.
* `DependencyReport.fanOut` — how many other files a file imports.
* `DependencyReport.encard_edges` — the edges of the graph, counted node by node.
* `DependencyReport.fanOuts_eq` — the graph has as many successors of each node.
* `DependencyReport.fanOut_lt` — a file does not import itself, so there is a file that it does not
  import.
* `DependencyReport.imports_set` — imports that mean nothing new leave the graph as it is.
* `DependencyReport.ofFiles_countsImports` — the counts of a report.
-/

namespace Affinity

open Scalar

namespace DependencyReport

/-! ## Imports -/

/-- The target of the import with a number in the file with a number, and what it means: a file of
the repository or something outside. -/
def ImportAt (files : List FileFacts) (i k : ℕ) (meaning : Option ℕ) : Prop :=
  ∃ f target, files[i]? = some f ∧ f.imports[k]? = some target ∧
    (SuffixIndex.ofPaths (files.map (·.path))).resolve target = meaning

/-- **The imports of all files**, counted by their places. -/
theorem encard_imports (files : List FileFacts) (p : Option ℕ → Bool) :
    {q : ℕ × ℕ | ∃ meaning, ImportAt files q.1 q.2 meaning ∧ p meaning = true}.encard =
      (resolvedImports files).flatten.countP p := by
  rw [← encard_elements]
  congr 1
  ext ⟨i, k⟩
  simp only [resolvedImports, ImportAt, Set.mem_ofPred_eq, List.getElem?_map,
    Option.map_eq_some_iff]
  constructor
  · rintro ⟨meaning, ⟨f, target, hf, htarget, hmeaning⟩, hp⟩
    exact ⟨_, meaning, ⟨f, hf, rfl⟩, by simp [htarget, hmeaning], hp⟩
  · rintro ⟨_, meaning, ⟨f, hf, rfl⟩, hmeaning, hp⟩
    rw [List.getElem?_map, Option.map_eq_some_iff] at hmeaning
    obtain ⟨target, htarget, hresolve⟩ := hmeaning
    exact ⟨meaning, ⟨f, target, hf, htarget, hresolve⟩, hp⟩

theorem length_resolvedImports (files : List FileFacts) :
    (resolvedImports files).flatten.length = (files.map (·.imports.length)).sum := by
  simp only [resolvedImports, List.length_flatten, List.map_map, Function.comp_def, List.length_map]

/-! ## Edges -/

/-- How many other files a file imports. -/
noncomputable def fanOut (files : List FileFacts) (i : ℕ) : ℕ := {j | Imports files i j}.ncard

/-- The successors of a node are the other files that the file imports, each once. -/
theorem encard_successors (files : List FileFacts) (i : ℕ) :
    {j | Imports files i j}.encard = ((graphOf files).getD i []).length := by
  have hset : {j | Imports files i j} = {j | j ∈ (graphOf files).getD i []} := by
    ext j
    rw [Set.mem_ofPred_eq, Set.mem_ofPred_eq, getD_graphOf, Imports]
    cases files[i]? with
    | none => simp
    | some f => simp [mem_successors_iff]
  have hnodup : ((graphOf files).getD i []).Nodup := by
    rw [getD_graphOf]
    cases files[i]? with
    | none => exact .nil
    | some f => exact nodup_eraseDups _
  rw [hset, encard_of_nodup hnodup]

theorem encard_fanOut (files : List FileFacts) (i : ℕ) :
    {j | Imports files i j}.encard = fanOut files i := by
  have hfinite : {j | Imports files i j}.Finite := by
    rw [← Set.encard_ne_top_iff, encard_successors]
    exact ENat.natCast_ne_top _
  exact hfinite.cast_ncard_eq.symm

/-- The graph has as many successors of each node. -/
theorem fanOuts_eq (files : List FileFacts) :
    (graphOf files).toList.map (·.length) = (List.range files.length).map (fanOut files) := by
  refine List.ext_getElem (by simp) fun i hi _ => ?_
  have hnode : i < (graphOf files).size := by simpa using hi
  have hlength : ((graphOf files).getD i []).length = fanOut files i := by
    rw [← Nat.cast_inj (R := ℕ∞), ← encard_successors, encard_fanOut]
  rw [List.getElem_map, List.getElem_map, List.getElem_range, ← hlength, Array.getElem_toList,
    Array.getD_eq_getD_getElem?, Array.getElem?_eq_getElem hnode, Option.getD_some]

theorem Imports.lt_length {files : List FileFacts} {i j : ℕ} (h : Imports files i j) :
    i < files.length ∧ j < files.length := by
  rw [← edge_graphOf] at h
  exact ⟨by simpa using h.lt_size, by simpa using h.2⟩

theorem fanOut_eq_zero {files : List FileFacts} {i : ℕ} (hi : files.length ≤ i) :
    fanOut files i = 0 := by
  have hnone : {j | Imports files i j} = ∅ :=
    Set.eq_empty_of_forall_notMem fun j hj => hi.not_gt (Imports.lt_length hj).1
  rw [fanOut, hnone, Set.ncard_empty]

/-- **The edges of the graph** are counted node by node. -/
theorem encard_edges (files : List FileFacts) :
    {q : ℕ × ℕ | Imports files q.1 q.2}.encard =
      ((List.range files.length).map (fanOut files)).sum := by
  refine encard_pairs (fun i => {j | Imports files i j}) _ fun i => ?_
  rw [encard_fanOut, List.getElem?_map]
  by_cases hi : i < files.length
  · rw [List.getElem?_range hi]
    rfl
  · rw [List.getElem?_eq_none (by simpa using hi), fanOut_eq_zero (not_lt.1 hi)]
    rfl

/-- A file is none of the other files that it imports. -/
theorem fanOut_lt {files : List FileFacts} {i : ℕ} (hi : i < files.length) :
    fanOut files i < files.length := by
  have hothers : {j | Imports files i j} ⊆ ↑((Finset.range files.length).erase i) := by
    intro j hj
    obtain ⟨f, -, hne, -⟩ := id hj
    rw [Finset.coe_erase, Finset.coe_range]
    exact ⟨(Imports.lt_length hj).2, hne⟩
  have hle := Set.ncard_le_ncard hothers (Finset.finite_toSet _)
  rw [Set.ncard_coe_finset, Finset.card_erase_of_mem (Finset.mem_range.2 hi),
    Finset.card_range] at hle
  unfold fanOut
  omega

/-- Further imports of a file mean files that it imports already, the file itself or nothing. -/
def NoNewEdge (files : List FileFacts) (i : ℕ) (f : FileFacts) (more : List String) : Prop :=
  let resolve := (SuffixIndex.ofPaths (files.map (·.path))).resolve
  ∀ target ∈ more, resolve target = none ∨ resolve target = some i ∨
    ∃ known ∈ f.imports, resolve known = resolve target

/-- Such imports make no difference to who imports whom. -/
theorem imports_set {files : List FileFacts} {i : ℕ} {f : FileFacts} {more : List String}
    (hf : files[i]? = some f) (hmore : NoNewEdge files i f more) :
    Imports (files.set i { f with imports := f.imports ++ more }) = Imports files := by
  obtain ⟨hi, -⟩ := List.getElem?_eq_some_iff.1 hf
  have hpaths : (files.set i { f with imports := f.imports ++ more }).map (·.path) =
      files.map (·.path) := by
    have hpath : (files.map (·.path))[i]? = some f.path := by
      rw [List.getElem?_map, hf, Option.map_some]
    obtain ⟨hlt, hpath⟩ := List.getElem?_eq_some_iff.1 hpath
    rw [List.map_set]
    exact hpath ▸ List.set_getElem_self hlt
  funext i' j
  rw [Imports, Imports, hpaths, eq_iff_iff]
  by_cases hi' : i = i'
  · subst hi'
    rw [List.getElem?_set_self hi, hf]
    simp only [Option.some.injEq, exists_eq_left', List.mem_append]
    refine and_congr_right fun hne => ?_
    constructor
    · rintro ⟨target, htarget | htarget, hresolve⟩
      · exact ⟨target, htarget, hresolve⟩
      · rcases hmore target htarget with hnone | hself | ⟨known, hknown, hsame⟩
        · rw [hresolve] at hnone
          cases hnone
        · rw [hresolve] at hself
          exact absurd (Option.some.inj hself) hne
        · exact ⟨known, hknown, hsame.trans hresolve⟩
    · rintro ⟨target, htarget, hresolve⟩
      exact ⟨target, .inl htarget, hresolve⟩
  · rw [List.getElem?_set_ne hi']

/-! ## The report -/

section

variable {K : Type} [Scalar K]

theorem edges_ofFiles (files : List FileFacts) :
    (ofFiles files : DependencyReport K).edges =
      ((List.range files.length).map (fanOut files)).sum := by
  rw [← fanOuts_eq]
  rfl

theorem maxFanOut_ofFiles (files : List FileFacts) :
    (ofFiles files : DependencyReport K).maxFanOut =
      maxOf ((List.range files.length).map (fanOut files)) := by
  rw [← fanOuts_eq]
  rfl

/-- No file imports more of the others. -/
theorem fanOut_le_maxFanOut (files : List FileFacts) (i : ℕ) :
    fanOut files i ≤ (ofFiles files : DependencyReport K).maxFanOut := by
  rw [maxFanOut_ofFiles]
  by_cases hi : i < files.length
  · exact le_maxOf (List.mem_map_of_mem (List.mem_range.2 hi))
  · rw [fanOut_eq_zero (not_lt.1 hi)]
    exact Nat.zero_le _

/-- Some file imports as many of the others. -/
theorem exists_fanOut_eq_maxFanOut {files : List FileFacts} (hfiles : files ≠ []) :
    ∃ i < files.length, fanOut files i = (ofFiles files : DependencyReport K).maxFanOut := by
  have hnonempty : (List.range files.length).map (fanOut files) ≠ [] := by simpa using hfiles
  obtain ⟨i, hi, hgreatest⟩ := List.mem_map.1 (maxOf_mem hnonempty)
  exact ⟨i, List.mem_range.1 hi, hgreatest.trans (maxFanOut_ofFiles files).symm⟩

end

variable {K : Type} [ExactScalar K]

theorem edges_eq_averageFanOut_mul (files : List FileFacts) :
    ((ofFiles files : DependencyReport K).edges : K) =
      (ofFiles files : DependencyReport K).averageFanOut * files.length := by
  have haverage : (ofFiles files : DependencyReport K).averageFanOut =
      ratio (ofFiles files : DependencyReport K).edges files.length := rfl
  rw [haverage, ratio_eq]
  by_cases hfiles : files.length = 0
  · rw [edges_ofFiles, hfiles]
    simp
  · exact (div_mul_cancel₀ _ (Nat.cast_ne_zero.2 hfiles)).symm

/-- What a report has to say of the numbers of imports and edges. -/
structure CountsImports (files : List FileFacts) (report : DependencyReport K) : Prop where
  nodes : report.nodes = files.length
  internal : {q : ℕ × ℕ | ∃ j, ImportAt files q.1 q.2 (some j)}.encard = report.internalImports
  external : {q : ℕ × ℕ | ImportAt files q.1 q.2 none}.encard = report.externalImports
  imports : report.internalImports + report.externalImports = (files.map (·.imports.length)).sum
  /-- Edges are pairs of files, however many imports of the one mean the other. -/
  edges : {q : ℕ × ℕ | Imports files q.1 q.2}.encard = report.edges
  fanOuts : ∑ i ∈ Finset.range files.length, fanOut files i = report.edges
  fanOut_le : ∀ i, fanOut files i ≤ report.maxFanOut
  maxFanOut : files ≠ [] →
    (∃ i < files.length, fanOut files i = report.maxFanOut) ∧ report.maxFanOut < report.nodes
  averageFanOut : (report.edges : K) = report.averageFanOut * report.nodes

theorem countsImports_ofFiles (files : List FileFacts) :
    CountsImports files (ofFiles files : DependencyReport K) := by
  constructor
  case nodes => rfl
  case internal =>
    have hset : {q : ℕ × ℕ | ∃ j, ImportAt files q.1 q.2 (some j)} =
        {q | ∃ meaning, ImportAt files q.1 q.2 meaning ∧ meaning.isSome = true} := by
      ext q
      simp only [Set.mem_ofPred_eq, Option.isSome_iff_exists, ↓existsAndEq, and_true]
    rw [hset]
    exact encard_imports files Option.isSome
  case external =>
    have hexternal := encard_imports files Option.isNone
    simp only [Option.isNone_iff_eq_none, exists_eq_right] at hexternal
    exact hexternal
  case imports =>
    rw [← length_resolvedImports, List.length_eq_countP_add_countP Option.isSome]
    exact congrArg (_ + ·) (List.countP_congr fun meaning _ => by simp)
  case edges =>
    rw [edges_ofFiles]
    exact encard_edges files
  case fanOuts => exact (edges_ofFiles files).symm
  case fanOut_le => exact fanOut_le_maxFanOut files
  case maxFanOut =>
    intro hfiles
    obtain ⟨i, hi, hgreatest⟩ := exists_fanOut_eq_maxFanOut (K := K) hfiles
    exact ⟨⟨i, hi, hgreatest⟩, hgreatest ▸ fanOut_lt hi⟩
  case averageFanOut => exact edges_eq_averageFanOut_mul files

/-- **The counts of a report**: of imports, of files, of edges and of the edges from each file. What
means a file that is imported already, the importing file itself or something from outside adds no
edge. -/
theorem ofFiles_countsImports (files : List FileFacts) :
    CountsImports files (ofFiles files : DependencyReport K) ∧
      ∀ i f more, files[i]? = some f → NoNewEdge files i f more →
        (ofFiles (files.set i { f with imports := f.imports ++ more }) : DependencyReport K).edges =
          (ofFiles files : DependencyReport K).edges := by
  refine ⟨countsImports_ofFiles files, fun i f more hf hmore => ?_⟩
  have hedges := (countsImports_ofFiles (K := K) files).edges
  rw [← imports_set hf hmore, (countsImports_ofFiles (K := K) _).edges] at hedges
  exact Nat.cast_inj.1 hedges

/-- A file imports another one, then the same again under two names, itself and something from
outside. -/
theorem ofFiles_countsImports_again :
    let file (imports : List String) : FileFacts :=
      { path := "app/a.py", language := .python, imports }
    let other : FileFacts := { path := "app/b.py", language := .python }
    let more := ["app.b", "b", "a", "os"]
    let once : DependencyReport ℚ := ofFiles [file ["app.b"], other]
    let again : DependencyReport ℚ := ofFiles [file ("app.b" :: more), other]
    NoNewEdge [file ["app.b"], other] 0 (file ["app.b"]) more ∧
      once.internalImports = 1 ∧ again.internalImports = 4 ∧ again.externalImports = 1 ∧
      once.edges = 1 ∧ again.edges = once.edges := by
  intro file other more once again
  have hmore : NoNewEdge [file ["app.b"], other] 0 (file ["app.b"]) more := by
    unfold NoNewEdge
    decide +kernel
  have hsame := (ofFiles_countsImports (K := ℚ) [file ["app.b"], other]).2 0 _ more rfl hmore
  refine ⟨hmore, ?_, ?_, ?_, ?_, hsame⟩
  · decide +kernel
  · decide +kernel
  · decide +kernel
  · decide +kernel

end DependencyReport

end Affinity
