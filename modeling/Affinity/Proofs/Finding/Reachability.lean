import Mathlib.Data.List.Nodup
import Mathlib.Logic.Relation
import Affinity.Finding.ImportGraph

/-!
# Reachability in the graph of imports

The search marks nodes and keeps a stack of those whose successors it still has to look at. Each
node is put on the stack when it is marked, hence at most once, so as many rounds as there are
nodes are enough to empty the stack. What is marked then is closed under steps.

* `Graph.Edge` — a step of the graph.
* `Graph.Search` — the invariant of the search.
* `Graph.Search.step`, `Graph.work_step` — a round keeps the invariant and leaves less to do.
* `Graph.Search.reach_iff` — a search with enough rounds ends with the nodes that can be reached.
* `Graph.reachable_iff` — the search finds the nodes at the end of a path of at least one step.
-/

namespace Affinity

open Relation

theorem nodup_eraseDups {α : Type} [BEq α] [LawfulBEq α] (l : List α) : l.eraseDups.Nodup := by
  induction hn : l.length using Nat.strongRecOn generalizing l with
  | _ n ih =>
    cases l with
    | nil => simp
    | cons a rest =>
      have hshorter : (rest.filter fun b => !b == a).length < n := by
        rw [← hn, List.length_cons]
        exact Nat.lt_succ_of_le (List.length_filter_le _ _)
      rw [List.eraseDups_cons, List.nodup_cons]
      refine ⟨?_, ih _ hshorter _ rfl⟩
      simp [List.mem_eraseDups]

namespace Graph

/-- A step from one node to another. What is not a node of the graph has no part in a step. -/
def Edge (g : Graph) (i j : Nat) : Prop := j ∈ g.getD i [] ∧ j < g.size

theorem Edge.lt_size {g : Graph} {i j : Nat} (h : g.Edge i j) : i < g.size := by
  refine Nat.lt_of_not_le fun hi => ?_
  obtain ⟨hj, -⟩ := h
  simp [hi] at hj

/-! ## Marks -/

/-- The marks with those of some nodes added. -/
def mark (marks : Array Bool) (nodes : List Nat) : Array Bool :=
  nodes.foldl (fun r next => r.setIfInBounds next true) marks

@[simp] theorem mark_nil (marks : Array Bool) : mark marks [] = marks := rfl

theorem mark_cons (marks : Array Bool) (node : Nat) (nodes : List Nat) :
    mark marks (node :: nodes) = mark (marks.setIfInBounds node true) nodes := rfl

@[simp] theorem size_mark (marks : Array Bool) (nodes : List Nat) :
    (mark marks nodes).size = marks.size := by
  induction nodes generalizing marks with
  | nil => rfl
  | cons node nodes ih => rw [mark_cons, ih, Array.size_setIfInBounds]

/-- A node is marked if it was before or is among the added ones. -/
theorem getD_mark {marks : Array Bool} {nodes : List Nat} (hin : ∀ j ∈ nodes, j < marks.size)
    (i : Nat) :
    (mark marks nodes).getD i false = true ↔ marks.getD i false = true ∨ i ∈ nodes := by
  induction nodes generalizing marks with
  | nil => simp
  | cons node nodes ih =>
    obtain ⟨hnode, hnodes⟩ := List.forall_mem_cons.1 hin
    rw [mark_cons, ih (by simpa using hnodes), List.mem_cons]
    have hset : (marks.setIfInBounds node true).getD i false = true ↔
        marks.getD i false = true ∨ i = node := by
      by_cases hi : node = i
      · subst hi
        simp [hnode]
      · simp [Array.getElem?_setIfInBounds_ne hi, Ne.symm hi]
    rw [hset, or_assoc]

/-- Each node that was not marked leaves one unmarked node less. -/
theorem count_mark (marks : Array Bool) {nodes : List Nat} (hnodup : nodes.Nodup)
    (hfresh : ∀ j ∈ nodes, marks.getD j true = false) :
    (mark marks nodes).count false + nodes.length = marks.count false := by
  induction nodes generalizing marks with
  | nil => simp
  | cons node nodes ih =>
    obtain ⟨hnode, hnodes⟩ := List.forall_mem_cons.1 hfresh
    obtain ⟨hnot, hnodup⟩ := List.nodup_cons.1 hnodup
    have hlt : node < marks.size := by
      refine Nat.lt_of_not_le fun hle => ?_
      simp [hle] at hnode
    have hunmarked : marks[node] = false := by simpa [hlt] using hnode
    have hrest : ∀ j ∈ nodes, (marks.setIfInBounds node true).getD j true = false := by
      intro j hj
      have hne : node ≠ j := fun he => hnot (he ▸ hj)
      simpa [Array.getElem?_setIfInBounds_ne hne] using hnodes j hj
    have hpos : 0 < marks.count false :=
      Array.count_pos_iff.2 (hunmarked ▸ Array.getElem_mem hlt)
    have hone : (marks.setIfInBounds node true).count false = marks.count false - 1 := by
      rw [Array.setIfInBounds_def, dif_pos hlt, Array.count_set hlt]
      simp [hunmarked]
    rw [mark_cons, List.length_cons, ← Nat.add_assoc, ih _ hnodup hrest, hone]
    omega

/-! ## The search -/

/-- The successors of a node that are not marked yet, each once. -/
def fresh (g : Graph) (node : Nat) (marks : Array Bool) : List Nat :=
  ((g.getD node []).filter fun next => !(marks.getD next true)).eraseDups

theorem reach_cons (g : Graph) (fuel node : Nat) (rest : List Nat) (marks : Array Bool) :
    g.reach (fuel + 1) (node :: rest) marks =
      g.reach fuel (g.fresh node marks ++ rest) (mark marks (g.fresh node marks)) := rfl

theorem nodup_fresh (g : Graph) (node : Nat) (marks : Array Bool) : (g.fresh node marks).Nodup :=
  nodup_eraseDups _

theorem mem_fresh_iff {g : Graph} {node next : Nat} {marks : Array Bool} :
    next ∈ g.fresh node marks ↔ next ∈ g.getD node [] ∧ marks.getD next true = false := by
  rw [fresh, List.mem_eraseDups, List.mem_filter, Bool.not_eq_true']

/-- What holds of a search from a node after every round. -/
structure Search (g : Graph) (node : Nat) (stack : List Nat) (marks : Array Bool) : Prop where
  size_eq : marks.size = g.size
  /-- What is marked can be reached. -/
  sound : ∀ j, marks.getD j false = true → TransGen g.Edge node j
  first : ∀ j, g.Edge node j → marks.getD j false = true
  stacked : ∀ j ∈ stack, marks.getD j false = true
  /-- The steps from marked nodes lead to marked nodes, but for those still on the stack. -/
  closed : ∀ i, marks.getD i false = true → i ∉ stack → ∀ j, g.Edge i j → marks.getD j false = true

/-- The unmarked nodes and those on the stack: what a search still has to do. -/
def work (stack : List Nat) (marks : Array Bool) : Nat := stack.length + marks.count false

theorem Search.mem_fresh_iff {g : Graph} {node next : Nat} {stack : List Nat} {marks : Array Bool}
    (h : g.Search node stack marks) (i : Nat) :
    next ∈ g.fresh i marks ↔ g.Edge i next ∧ marks.getD next false = false := by
  rw [Graph.mem_fresh_iff, Edge, ← h.size_eq]
  by_cases hnext : next < marks.size <;> simp [hnext]

/-- A round keeps the invariant. -/
theorem Search.step {g : Graph} {node i : Nat} {rest : List Nat} {marks : Array Bool}
    (h : g.Search node (i :: rest) marks) :
    g.Search node (g.fresh i marks ++ rest) (mark marks (g.fresh i marks)) := by
  have hin : ∀ j ∈ g.fresh i marks, j < marks.size := fun j hj =>
    h.size_eq ▸ ((h.mem_fresh_iff i).1 hj).1.2
  have hmark := getD_mark hin
  constructor
  case size_eq => rw [size_mark, h.size_eq]
  case sound =>
    intro j hj
    rcases (hmark j).1 hj with hj | hj
    · exact h.sound j hj
    · exact (h.sound i (h.stacked i List.mem_cons_self)).tail ((h.mem_fresh_iff i).1 hj).1
  case first => exact fun j hj => (hmark j).2 (.inl (h.first j hj))
  case stacked =>
    intro j hj
    rcases List.mem_append.1 hj with hj | hj
    · exact (hmark j).2 (.inr hj)
    · exact (hmark j).2 (.inl (h.stacked j (List.mem_cons_of_mem i hj)))
  case closed =>
    intro k hk hstack j hj
    obtain ⟨hnew, hrest⟩ := not_or.1 (mt List.mem_append.2 hstack)
    have hold : marks.getD k false = true := ((hmark k).1 hk).resolve_right hnew
    refine (hmark j).2 ?_
    by_cases hki : k = i
    · -- the node taken from the stack: its successors are marked in this very round
      subst hki
      cases hmarked : marks.getD j false with
      | true => exact .inl rfl
      | false => exact .inr ((h.mem_fresh_iff k).2 ⟨hj, hmarked⟩)
    · exact .inl (h.closed k hold (by simp [hki, hrest]) j hj)

/-- A round leaves less to do. -/
theorem work_step (g : Graph) (i : Nat) (rest : List Nat) (marks : Array Bool) :
    work (g.fresh i marks ++ rest) (mark marks (g.fresh i marks)) + 1 = work (i :: rest) marks := by
  have hcount := count_mark marks (g.nodup_fresh i marks) fun j hj => (mem_fresh_iff.1 hj).2
  rw [work, work, List.length_append, List.length_cons]
  omega

/-- A search with an empty stack has marked all that can be reached. -/
theorem Search.marked_iff {g : Graph} {node : Nat} {marks : Array Bool}
    (h : g.Search node [] marks) (j : Nat) :
    marks.getD j false = true ↔ TransGen g.Edge node j := by
  refine ⟨h.sound j, fun hpath => ?_⟩
  induction hpath with
  | single hedge => exact h.first _ hedge
  | tail _ hedge ih => exact h.closed _ ih List.not_mem_nil _ hedge

/-- **A search with enough rounds** ends with the nodes that can be reached. -/
theorem Search.reach_iff {g : Graph} {node fuel : Nat} {stack : List Nat} {marks : Array Bool}
    (h : g.Search node stack marks) (hfuel : work stack marks ≤ fuel) (j : Nat) :
    (g.reach fuel stack marks).getD j false = true ↔ TransGen g.Edge node j := by
  -- on the rounds that are left; the work that is left stays within them
  induction fuel generalizing stack marks with
  | zero =>
    have hempty : stack = [] := List.eq_nil_of_length_eq_zero (by unfold work at hfuel; omega)
    subst hempty
    exact h.marked_iff j
  | succ fuel ih =>
    cases stack with
    | nil => exact h.marked_iff j
    | cons i rest =>
      rw [reach_cons]
      exact ih h.step (by have := work_step g i rest marks; omega)

/-! ## The nodes reached from one node -/

/-- The nodes on the stack when the search from a node begins: its successors, each once. -/
def start (g : Graph) (node : Nat) : List Nat :=
  ((g.getD node []).filter (· < g.size)).eraseDups

theorem reachable_eq (g : Graph) (node : Nat) :
    g.reachable node =
      g.reach (g.size + 1) (g.start node) (mark (Array.replicate g.size false) (g.start node)) :=
  rfl

theorem mem_start_iff {g : Graph} {node j : Nat} : j ∈ g.start node ↔ g.Edge node j := by
  rw [start, List.mem_eraseDups, List.mem_filter, decide_eq_true_iff, Edge]

theorem search_start (g : Graph) (node : Nat) :
    g.Search node (g.start node) (mark (Array.replicate g.size false) (g.start node)) := by
  have hmark : ∀ j, (mark (Array.replicate g.size false) (g.start node)).getD j false = true ↔
      g.Edge node j := by
    intro j
    have hin : ∀ i ∈ g.start node, i < (Array.replicate g.size false).size := by
      intro i hi
      simpa using (mem_start_iff.1 hi).2
    have hnone : (Array.replicate g.size false).getD j false = false := by
      by_cases hj : j < g.size <;> simp [hj]
    rw [getD_mark hin, mem_start_iff, hnone]
    simp
  constructor
  case size_eq => rw [size_mark, Array.size_replicate]
  case sound => exact fun j hj => .single ((hmark j).1 hj)
  case first => exact fun j hj => (hmark j).2 hj
  case stacked => exact fun j hj => (hmark j).2 (mem_start_iff.1 hj)
  case closed => exact fun i hi hstack => absurd (mem_start_iff.2 ((hmark i).1 hi)) hstack

/-- There is as much to do as there are nodes. -/
theorem work_start (g : Graph) (node : Nat) :
    work (g.start node) (mark (Array.replicate g.size false) (g.start node)) = g.size := by
  have hfresh : ∀ j ∈ g.start node, (Array.replicate g.size false).getD j true = false := by
    intro j hj
    have hlt : j < g.size := (mem_start_iff.1 hj).2
    simp [hlt]
  have hnodup : (g.start node).Nodup := nodup_eraseDups _
  have hcount := count_mark (Array.replicate g.size false) hnodup hfresh
  rw [Array.count_replicate_self] at hcount
  rw [work, Nat.add_comm, hcount]

/-- **The search is right**: from a node it finds the nodes at the end of a path of at least one
step, and no others. -/
theorem reachable_iff (g : Graph) (i j : Nat) :
    (g.reachable i).getD j false = true ↔ TransGen g.Edge i j := by
  have hfuel : work (g.start i) (mark (Array.replicate g.size false) (g.start i)) ≤ g.size + 1 := by
    rw [work_start]
    exact Nat.le_succ _
  rw [reachable_eq]
  exact (g.search_start i).reach_iff hfuel j

end Graph

end Affinity
