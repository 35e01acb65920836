import Mathlib.Data.List.Basic
import Affinity.Proofs.Facts.Functions
import Affinity.Python.Survey

/-!
# Nodes and what is charged to functions

The survey of a tree knows what is around a node from its scope alone. What it records of a function
fits together because the function of a scope was always charged with the depth of the scope: a
definition begins at the margin, and a control statement is charged before the nodes inside it are
seen.

* `Scope.Fits` — the function of the scope was charged with its depth.
* `Scope.Fits.inside` — so it was for the nodes inside a node.
* `Survey.Good` — the invariant of the survey, kept by every node.
* `walk_extends` — and so by the walk over every tree; `survey_good` is that from the root.
-/

namespace Affinity.Python

/-! ## Scopes -/

/-- The function of the scope, if there is one, was charged with the depth of the scope. -/
structure Scope.Fits (scope : Scope) (functions : List FunctionFacts) : Prop where
  loops_le : scope.loops ≤ scope.nesting
  reached : ∀ index, scope.function = some index →
    Reached functions index scope.nesting scope.loops

theorem Scope.Fits.mono {scope : Scope} {before after : List FunctionFacts}
    (h : scope.Fits before) (hdeepens : Deepens before after) : scope.Fits after where
  loops_le := h.loops_le
  reached index hindex := hdeepens index _ _ (h.reached index hindex)

/-- Inside a further control statement. -/
theorem Scope.Fits.loops_le_control {scope : Scope} {functions : List FunctionFacts}
    (h : scope.Fits functions) (kind : Control) :
    scope.loops + (if kind = .loop then 1 else 0) ≤ scope.nesting + 1 := by
  have hle := h.loops_le
  split <;> omega

/-- At the margin of a program. -/
theorem Scope.fits_margin (functions : List FunctionFacts) : Scope.Fits {} functions where
  loops_le := Nat.le_refl 0
  reached := nofun

/-! ## Nodes -/

namespace Survey

/-- A symbol is no function yet. -/
theorem functions_symbol (s : Survey) (casings : List Casing) (name : String) (documented : Bool) :
    (s.symbol casings name documented).functions = s.functions := by
  unfold symbol
  extract_lets named
  split
  · rfl
  · rfl

/-- What the survey keeps true. -/
structure Good (s : Survey) : Prop where
  functions : AllWellFormed s.functions
  docs : s.documentedSymbols ≤ s.publicSymbols
  errors : s.errors.guarded ≤ s.errors.risk

/-- The invariant holds afterwards, and what was reached before is still reached. -/
structure Extends (before after : Survey) : Prop where
  good : after.Good
  deepens : Deepens before.functions after.functions

theorem Extends.trans {a b c : Survey} (hab : Extends a b) (hbc : Extends b c) : Extends a c :=
  ⟨hbc.good, hab.deepens.trans hbc.deepens⟩

namespace Good

theorem empty : Good {} where
  functions := nofun
  docs := Nat.le_refl 0
  errors := Nat.le_refl 0

variable {s : Survey} {scope : Scope}

theorem refl (h : s.Good) : Extends s s := ⟨h, Deepens.refl _⟩

/-- Counts that the invariant does not speak of. -/
theorem others (h : s.Good) (classes : List ClassFacts) (names : List (List Casing × String))
    (bindings : List String) (testFunctions assertions : Nat) (security : Table String Nat)
    (imports : List String) :
    Extends s
      { s with classes, names, bindings, testFunctions, assertions, security, imports } :=
  ⟨⟨h.functions, h.docs, h.errors⟩, Deepens.refl _⟩

theorem addRisk (h : s.Good) {risk guarded : Nat} (hle : guarded ≤ risk) (checks : Nat) :
    Extends s (s.addRisk risk guarded checks) :=
  ⟨⟨h.functions, h.docs, Nat.add_le_add h.errors hle⟩, Deepens.refl _⟩

/-- Changing the function of a scope, which was charged with its depth. -/
theorem charge (h : s.Good) (hscope : scope.Fits s.functions)
    {change : FunctionFacts → FunctionFacts}
    (hchange : ∀ f, scope.nesting ≤ f.maxNesting → scope.loops ≤ f.maxLoopDepth → f.WellFormed →
      (change f).WellFormed)
    (hdeeper : ∀ f, f.maxNesting ≤ (change f).maxNesting ∧
      f.maxLoopDepth ≤ (change f).maxLoopDepth) :
    Extends s (s.charge scope change) := by
  unfold Survey.charge
  split
  · next index hindex =>
    obtain ⟨f, hf, hnesting, hloops⟩ := hscope.reached index hindex
    refine ⟨⟨?_, h.docs, h.errors⟩, Deepens.modify hdeeper _ _⟩
    apply h.functions.modify
    intro g hg hwell
    rw [hf] at hg
    cases hg
    exact hchange f hnesting hloops hwell
  · exact h.refl

theorem symbol (h : s.Good) (casings : List Casing) (name : String) (documented : Bool) :
    Extends s (s.symbol casings name documented) := by
  have hdocs : s.documentedSymbols + (if documented then 1 else 0) ≤ s.publicSymbols + 1 := by
    have hbefore := h.docs
    split <;> omega
  unfold Survey.symbol
  extract_lets named
  split
  · exact h.others ..
  · exact ⟨⟨h.functions, hdocs, h.errors⟩, Deepens.refl _⟩

theorem addFunction (h : s.Good) (scope : Scope) (name : String) (params : Nat) (documented : Bool)
    (span : Span) : Extends s (s.addFunction scope name params documented span) := by
  have hsymbol : Extends s (s.symbol [.snake] name documented) := h.symbol ..
  refine hsymbol.trans ⟨⟨?_, hsymbol.good.docs, hsymbol.good.errors⟩, Deepens.append _ _⟩
  exact hsymbol.good.functions.append (FunctionFacts.wellFormed_head ..)

theorem addClass (h : s.Good) (name : String) (documented : Bool) (span : Span) :
    Extends s (s.addClass name documented span) := by
  have hsymbol : Extends s (s.symbol [.pascal] name documented) := h.symbol ..
  exact hsymbol.trans (hsymbol.good.others ..)

/-- A costly statement is charged inside a loop only. -/
theorem costly (h : s.Good) (hscope : scope.Fits s.functions) (hloops : 0 < scope.loops)
    (io concat : Nat) :
    Extends s (s.charge scope fun f =>
      { f with ioInLoop := f.ioInLoop + io, concatInLoop := f.concatInLoop + concat }) := by
  apply h.charge hscope
  · intro f _ hdepth hwell
    have hreached : 1 ≤ f.maxLoopDepth := Nat.le_trans hloops hdepth
    exact ⟨hwell.loops_le, fun _ => hreached, hwell.early⟩
  · intro f
    exact ⟨Nat.le_refl _, Nat.le_refl _⟩

/-- An early exit is charged inside a control statement only. -/
theorem early (h : s.Good) (hscope : scope.Fits s.functions) (hnesting : 0 < scope.nesting) :
    Extends s (s.charge scope fun f => { f with earlyReturns := f.earlyReturns + 1 }) := by
  apply h.charge hscope
  · intro f hdepth _ hwell
    have hreached : 1 ≤ f.maxNesting := Nat.le_trans hnesting hdepth
    exact ⟨hwell.loops_le, hwell.costly, fun _ => hreached⟩
  · intro f
    exact ⟨Nat.le_refl _, Nat.le_refl _⟩

theorem addCall (h : s.Good) (hscope : scope.Fits s.functions) (callee arguments : List Char) :
    Extends s (s.addCall scope callee arguments) := by
  unfold Survey.addCall
  extract_lets risk risked asserted charged
  have hrisked : Extends s risked := by
    apply h.addRisk
    split
    · exact Nat.le_refl _
    · exact Nat.zero_le _
  have hasserted : Extends s asserted := hrisked.trans (hrisked.good.others ..)
  have hcharged : Extends s charged := by
    unfold charged
    split
    · next hio =>
      rw [Bool.and_eq_true, decide_eq_true_eq] at hio
      exact hasserted.trans
        (hasserted.good.costly (hscope.mono hasserted.deepens) hio.1 1 0)
    · exact hasserted
  split
  · exact hcharged.trans (hcharged.good.others ..)
  · exact hcharged

/-- **Every node keeps the invariant**, in a scope that fits. -/
theorem visit (h : s.Good) (hscope : scope.Fits s.functions) (construct : Construct) :
    Extends s (s.visit scope construct) := by
  cases construct with
  | function name params documented span => exact h.addFunction ..
  | classLike name documented span => exact h.addClass ..
  | control kind =>
    apply h.charge hscope
    · intro f _ _ hwell
      exact hwell.deepen _ (hscope.loops_le_control kind)
    · intro f
      exact ⟨Nat.le_max_left _ _, Nat.le_max_left _ _⟩
  | branch =>
    apply h.charge hscope
    · intro f _ _ hwell
      exact ⟨hwell.loops_le, hwell.costly, hwell.early⟩
    · intro f
      exact ⟨Nat.le_refl _, Nat.le_refl _⟩
  | exit raising =>
    have hchecked : Extends s (if raising then s.addRisk 0 0 1 else s) := by
      split
      · exact h.addRisk (Nat.le_refl 0) 1
      · exact h.refl
    rw [Survey.visit]
    split
    · next hinside =>
      exact hchecked.trans (hchecked.good.early (hscope.mono hchecked.deepens) hinside)
    · exact hchecked
  | assertion =>
    have hchecked : Extends s (s.addRisk 0 0 1) := h.addRisk (Nat.le_refl 0) 1
    exact hchecked.trans (hchecked.good.others ..)
  | comparison text =>
    rw [Survey.visit]
    split
    · exact h.addRisk (Nat.le_refl 0) 1
    · exact h.refl
  | call callee arguments => exact h.addCall hscope ..
  | augment addsString =>
    rw [Survey.visit]
    split
    · next hadded =>
      rw [Bool.and_eq_true, decide_eq_true_eq] at hadded
      exact h.costly hscope hadded.2 0 1
    · exact h.refl
  | binding names => exact h.others ..
  | imports targets => exact h.others ..

end Good

end Survey

/-- The nodes inside a node are seen in a scope that fits what was recorded of the node. -/
theorem Scope.Fits.inside {scope : Scope} {s : Survey} (h : scope.Fits s.functions) (hs : s.Good)
    (construct : Construct) :
    (scope.inside s construct).Fits (s.visit scope construct).functions := by
  have hvisited : scope.Fits (s.visit scope construct).functions :=
    h.mono (hs.visit h construct).deepens
  cases construct with
  | function name params documented span =>
    refine ⟨Nat.le_refl 0, ?_⟩
    rintro index ⟨⟩
    show Reached ((s.symbol [.snake] name documented).functions ++ _) s.functions.length 0 0
    rw [Survey.functions_symbol]
    exact reached_append _ _
  | classLike name documented span => exact ⟨Nat.le_refl 0, nofun⟩
  | control kind =>
    refine ⟨h.loops_le_control kind, ?_⟩
    rintro index (hindex : scope.function = some index)
    have hlt : index < s.functions.length := (h.reached index hindex).lt_length
    rw [Survey.visit, Survey.charge, hindex]
    apply reached_modify hlt
    intro f
    exact ⟨Nat.le_max_right _ _, Nat.le_max_right _ _⟩
  | _ => exact hvisited

/-- One step of the walk. -/
theorem Survey.Good.step {s : Survey} {scope : Scope} (hs : s.Good)
    (hscope : scope.Fits s.functions) (tree : SyntaxTree) :
    s.Extends (s.step scope tree).1 ∧
      (s.step scope tree).2.Fits (s.step scope tree).1.functions := by
  rw [Survey.step]
  split
  · next construct _ => exact ⟨hs.visit hscope construct, hscope.inside hs construct⟩
  · exact ⟨hs.refl, hscope⟩

/-- Whether failures are handled makes no difference to where a node is. -/
theorem Scope.Fits.insides {scope : Scope} {functions : List FunctionFacts}
    (h : scope.Fits functions) (tree : SyntaxTree) :
    ∀ entry ∈ tree.insides scope, entry.2.Fits functions := by
  intro entry hentry
  obtain ⟨guarded, hguarded⟩ := exists_guarded_of_mem_seenIn hentry
  rw [hguarded]
  exact ⟨h.loops_le, h.reached⟩

/-! ## Trees -/

/-- **The walk keeps the invariant**, if every node on its stack has a scope that fits. -/
theorem walk_extends {s : Survey} {stack : List (SyntaxTree × Scope)} (hs : s.Good)
    (hstack : ∀ entry ∈ stack, entry.2.Fits s.functions) :
    s.Extends (walk Survey.step s stack) := by
  induction s, stack using walk.induct Survey.step with
  | case1 s =>
    rw [walk]
    exact hs.refl
  | case2 s tree scope stack ih =>
    obtain ⟨hextends, hinner⟩ := hs.step (hstack _ List.mem_cons_self) tree
    rw [walk]
    refine hextends.trans (ih hextends.good ?_)
    intro entry hentry
    rw [push_eq] at hentry
    rcases List.mem_append.mp hentry with hinside | hwaiting
    · exact hinner.insides tree entry hinside
    · exact (hstack entry (List.mem_cons_of_mem _ hwaiting)).mono hextends.deepens

/-- **What the survey of a program finds fits together**, whatever its tree is. -/
theorem survey_good (root : SyntaxTree) : (survey root).Good := by
  refine (walk_extends .empty ?_).good
  intro entry hentry
  rw [List.mem_singleton.mp hentry]
  exact Scope.fits_margin _

end Affinity.Python
