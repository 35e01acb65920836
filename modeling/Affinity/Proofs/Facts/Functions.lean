import Mathlib.Data.List.Basic
import Affinity.Facts

/-!
# Facts about functions while a file is read

The functions found so far are a list that only grows: new ones are put behind the others, and what
stands inside a function is charged to it under its index. Depths are never lowered, so a place
that was reached inside a function stays reached whatever is read later.

* `FunctionFacts.WellFormed` — what is counted for a function fits together.
* `Reached` — a function was charged with a place of some depth.
* `Deepens` — everything that was reached before is reached afterwards.
-/

namespace Affinity

/-! ## One function -/

/-- What is counted for a function fits together. -/
structure FunctionFacts.WellFormed (f : FunctionFacts) : Prop where
  /-- Loops are among the control blocks. -/
  loops_le : f.maxLoopDepth ≤ f.maxNesting
  /-- A costly statement was found inside a loop … -/
  costly : 0 < f.ioInLoop ∨ 0 < f.concatInLoop → 1 ≤ f.maxLoopDepth
  /-- … and an early exit inside a control block. -/
  early : 0 < f.earlyReturns → 1 ≤ f.maxNesting

namespace FunctionFacts

/-- A function of which only the head was read. -/
theorem wellFormed_head (name : String) (line lines params : Nat) :
    WellFormed { name, line, lines, params } where
  loops_le := Nat.le_refl 0
  costly := by simp
  early := by simp

/-- Reading a deeper place of a function. -/
theorem WellFormed.deepen {f : FunctionFacts} (h : f.WellFormed) (branches : Nat)
    {nesting loops : Nat} (hle : loops ≤ nesting) :
    WellFormed
      { f with
        branches
        maxNesting := max f.maxNesting nesting
        maxLoopDepth := max f.maxLoopDepth loops } where
  loops_le := by
    have hloops := h.loops_le
    simp only
    omega
  costly := by
    intro hcostly
    exact Nat.le_trans (h.costly hcostly) (Nat.le_max_left _ _)
  early := by
    intro hearly
    exact Nat.le_trans (h.early hearly) (Nat.le_max_left _ _)

/-- Charging a function with statements at a place that was reached inside it. -/
theorem WellFormed.charge {f : FunctionFacts} (h : f.WellFormed) {branches exits io concat : Nat}
    (hexits : 0 < exits → 1 ≤ f.maxNesting) (hcostly : 0 < io ∨ 0 < concat → 1 ≤ f.maxLoopDepth) :
    WellFormed
      { f with
        branches
        earlyReturns := f.earlyReturns + exits
        ioInLoop := f.ioInLoop + io
        concatInLoop := f.concatInLoop + concat } where
  loops_le := h.loops_le
  costly := by
    have hbefore := h.costly
    simp only
    omega
  early := by
    have hbefore := h.early
    simp only
    omega

end FunctionFacts

/-! ## The functions of a file -/

/-- Every function is well formed. -/
def AllWellFormed (functions : List FunctionFacts) : Prop := ∀ f ∈ functions, f.WellFormed

theorem AllWellFormed.append {functions : List FunctionFacts} (h : AllWellFormed functions)
    {f : FunctionFacts} (hf : f.WellFormed) : AllWellFormed (functions ++ [f]) := by
  intro g hg
  rcases List.mem_append.1 hg with hg | hg
  · exact h g hg
  · rw [List.mem_singleton.1 hg]
    exact hf

/-- Changing the function under an index. -/
theorem AllWellFormed.modify {functions : List FunctionFacts} (h : AllWellFormed functions)
    {index : Nat} {change : FunctionFacts → FunctionFacts}
    (hchange : ∀ f, functions[index]? = some f → f.WellFormed → (change f).WellFormed) :
    AllWellFormed (functions.modify index change) := by
  intro g hg
  obtain ⟨i, hi⟩ := List.mem_iff_getElem?.1 hg
  by_cases hindex : index = i
  · subst hindex
    rw [List.getElem?_modify_eq] at hi
    obtain ⟨f, hf, rfl⟩ := Option.map_eq_some_iff.1 hi
    exact hchange f hf (h f (List.mem_of_getElem? hf))
  · rw [List.getElem?_modify_ne _ _ hindex] at hi
    exact h g (List.mem_of_getElem? hi)

/-- The function under an index was charged with a place inside so many control blocks and so many
loops. -/
def Reached (functions : List FunctionFacts) (index nesting loops : Nat) : Prop :=
  ∃ f, functions[index]? = some f ∧ nesting ≤ f.maxNesting ∧ loops ≤ f.maxLoopDepth

theorem Reached.lt_length {functions : List FunctionFacts} {index nesting loops : Nat}
    (h : Reached functions index nesting loops) : index < functions.length := by
  obtain ⟨f, hf, -⟩ := h
  exact (List.getElem?_eq_some_iff.1 hf).1

/-- A function that was just found. -/
theorem reached_append (functions : List FunctionFacts) (f : FunctionFacts) :
    Reached (functions ++ [f]) functions.length 0 0 :=
  ⟨f, List.getElem?_concat_length, Nat.zero_le _, Nat.zero_le _⟩

/-- A change that charges the function under an index with a place. -/
theorem reached_modify {functions : List FunctionFacts} {index nesting loops : Nat}
    {change : FunctionFacts → FunctionFacts} (hindex : index < functions.length)
    (hchange : ∀ f, nesting ≤ (change f).maxNesting ∧ loops ≤ (change f).maxLoopDepth) :
    Reached (functions.modify index change) index nesting loops := by
  refine ⟨change functions[index], ?_, hchange _⟩
  rw [List.getElem?_modify_eq, List.getElem?_eq_getElem hindex]
  rfl

/-! ## Growth -/

/-- Whatever was reached in the functions before is reached in those afterwards. -/
def Deepens (before after : List FunctionFacts) : Prop :=
  ∀ index nesting loops, Reached before index nesting loops → Reached after index nesting loops

namespace Deepens

theorem refl (functions : List FunctionFacts) : Deepens functions functions :=
  fun _ _ _ h => h

theorem trans {a b c : List FunctionFacts} (hab : Deepens a b) (hbc : Deepens b c) :
    Deepens a c :=
  fun index nesting loops h => hbc index nesting loops (hab index nesting loops h)

theorem append (functions : List FunctionFacts) (f : FunctionFacts) :
    Deepens functions (functions ++ [f]) := by
  rintro index nesting loops ⟨g, hg, hdepth⟩
  have hindex : index < functions.length := (List.getElem?_eq_some_iff.1 hg).1
  exact ⟨g, by rw [List.getElem?_append_left hindex, hg], hdepth⟩

theorem modify {change : FunctionFacts → FunctionFacts}
    (hchange : ∀ f, f.maxNesting ≤ (change f).maxNesting ∧ f.maxLoopDepth ≤ (change f).maxLoopDepth)
    (functions : List FunctionFacts) (index : Nat) :
    Deepens functions (functions.modify index change) := by
  rintro i nesting loops ⟨f, hf, hnesting, hloops⟩
  by_cases hindex : index = i
  · subst hindex
    refine ⟨change f, ?_, Nat.le_trans hnesting (hchange f).1, Nat.le_trans hloops (hchange f).2⟩
    rw [List.getElem?_modify_eq, hf]
    rfl
  · refine ⟨f, ?_, hnesting, hloops⟩
    rw [List.getElem?_modify_ne _ _ hindex, hf]

end Deepens

end Affinity
