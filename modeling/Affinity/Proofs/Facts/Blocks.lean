import Mathlib.Data.List.Basic
import Affinity.Proofs.Facts.Functions
import Affinity.Rules.Blocks

/-!
# Blocks and what is charged to functions

The scan of the code lines keeps a stack of open blocks and charges what it meets to the innermost
function. What it records of a function fits together because of what it keeps true of the stack:
the function around every open block was already charged with the depth of that block.

* `BlockScan.Good` — the invariant of the scan, whatever the rules of the language are.
* `BlockScan.Good.step` — it is kept by every line.
* `Rules.scanBlocks_wellFormed` — what the scan of a whole file finds.
-/

namespace Affinity

/-! ## Depths -/

theorem loopDepth_le_controlDepth (frames : List Frame) :
    loopDepth frames ≤ controlDepth frames := by
  apply List.countP_mono_left
  intro frame _ hloop
  rw [beq_iff_eq.1 hloop]
  rfl

/-- The innermost function is that of the first frame or is found around it. -/
theorem innermostFunction?_cons {frame : Frame} {outer inner : List Frame} {index : Nat}
    (h : innermostFunction? (frame :: outer) = some (index, inner)) :
    frame.kind = .function index ∨ ∃ rest, innermostFunction? outer = some (index, rest) := by
  unfold innermostFunction? at h
  split at h
  · next found hkind =>
    cases h
    exact .inl hkind
  · obtain ⟨⟨found, rest⟩, hrest, hfound⟩ := Option.map_eq_some_iff.1 h
    cases hfound
    exact .inr ⟨rest, hrest⟩

/-- The function around every open block was charged with the depth of the block. -/
def Charged (functions : List FunctionFacts) (stack : List Frame) : Prop :=
  ∀ block, block <:+ stack → ∀ index inner, innermostFunction? block = some (index, inner) →
    Reached functions index (controlDepth inner) (loopDepth inner)

namespace Charged

theorem nil (functions : List FunctionFacts) : Charged functions [] := by
  intro block hblock index inner hinner
  rw [List.suffix_nil.1 hblock] at hinner
  cases hinner

theorem mono {before after : List FunctionFacts} {stack : List Frame} (h : Charged before stack)
    (hdeepens : Deepens before after) : Charged after stack :=
  fun block hblock index inner hinner =>
    hdeepens index _ _ (h block hblock index inner hinner)

theorem tail {functions : List FunctionFacts} {frame : Frame} {outer : List Frame}
    (h : Charged functions (frame :: outer)) : Charged functions outer :=
  fun block hblock => h block (hblock.trans (List.suffix_cons frame outer))

/-- A further block, whose function was charged with its depth. -/
theorem cons {functions : List FunctionFacts} {frame : Frame} {outer : List Frame}
    (h : Charged functions outer)
    (hframe : ∀ index inner, innermostFunction? (frame :: outer) = some (index, inner) →
      Reached functions index (controlDepth inner) (loopDepth inner)) :
    Charged functions (frame :: outer) := by
  intro block hblock index inner hinner
  rcases List.suffix_cons_iff.1 hblock with rfl | hblock
  · exact hframe index inner hinner
  · exact h block hblock index inner hinner

end Charged

namespace BlockScan

/-- What the scan keeps true. -/
structure Good (s : BlockScan) : Prop where
  functions : AllWellFormed s.functions
  charged : Charged s.functions s.stack
  /-- A declaration that waits for its block was recorded. -/
  pending : ∀ index line, s.pending = some (.function index, line) → index < s.functions.length
  errors : s.errors.guarded ≤ s.errors.risk

namespace Good

theorem empty : Good {} where
  functions := nofun
  charged := Charged.nil []
  pending := nofun
  errors := Nat.le_refl 0

variable {s : BlockScan}

theorem unpend (h : s.Good) : Good { s with pending := none } where
  functions := h.functions
  charged := h.charged
  pending := nofun
  errors := h.errors

theorem declare (h : s.Good) (line : Nat) (declaration : Declaration) :
    (s.declare line declaration).Good := by
  cases declaration with
  | function name params receiver =>
    refine { functions := ?_, charged := ?_, pending := ?_, errors := h.errors }
    · exact h.functions.append (FunctionFacts.wellFormed_head ..)
    · exact h.charged.mono (Deepens.append _ _)
    · rintro index line hpending
      cases hpending
      exact (reached_append ..).lt_length
  | classLike name =>
    refine { functions := h.functions, charged := h.charged, pending := ?_, errors := h.errors }
    rintro index line hpending
    cases hpending

/-- Other blocks around the lines that follow. -/
theorem restack (h : s.Good) {stack : List Frame} (hstack : Charged s.functions stack) :
    Good { s with stack } where
  functions := h.functions
  charged := hstack
  pending := h.pending
  errors := h.errors

/-- Changing a function without lowering its depths. -/
theorem modify (h : s.Good) {index : Nat} {change : FunctionFacts → FunctionFacts}
    (hchange : ∀ f, s.functions[index]? = some f → f.WellFormed → (change f).WellFormed)
    (hdeeper : ∀ f, f.maxNesting ≤ (change f).maxNesting ∧
      f.maxLoopDepth ≤ (change f).maxLoopDepth) :
    Good { s with functions := s.functions.modify index change } where
  functions := h.functions.modify hchange
  charged := h.charged.mono (Deepens.modify hdeeper _ _)
  pending := by
    intro index' line hpending
    rw [List.length_modify]
    exact h.pending index' line hpending
  errors := h.errors

/-- Opening a block. If it is that of a function, the function was recorded. -/
theorem push (h : s.Good) {frame : Frame}
    (hframe : ∀ index, frame.kind = .function index → index < s.functions.length) :
    (s.push frame).Good := by
  unfold BlockScan.push
  extract_lets stack
  split
  · next index inner hinner =>
    have hindex : index < s.functions.length := by
      rcases innermostFunction?_cons hinner with hkind | ⟨rest, hrest⟩
      · exact hframe index hkind
      · exact (h.charged s.stack (List.suffix_refl _) index rest hrest).lt_length
    have hdeepened : Good { s with functions := s.functions.modify index fun f =>
        { f with
          maxNesting := max f.maxNesting (controlDepth inner)
          maxLoopDepth := max f.maxLoopDepth (loopDepth inner) } } := by
      apply h.modify
      · intro f _ hf
        exact hf.deepen f.branches (loopDepth_le_controlDepth inner)
      · intro f
        exact ⟨Nat.le_max_left _ _, Nat.le_max_left _ _⟩
    apply hdeepened.restack
    apply hdeepened.charged.cons
    intro index' inner' hinner'
    cases hinner.symm.trans hinner'
    apply reached_modify hindex
    intro f
    exact ⟨Nat.le_max_right _ _, Nat.le_max_right _ _⟩
  · next hnone =>
    apply h.restack
    apply h.charged.cons
    intro index inner hinner
    cases hnone.symm.trans hinner

theorem pop (h : s.Good) (line : Nat) : (s.pop line).Good := by
  unfold BlockScan.pop
  split
  · exact h
  · next frame outer hstack =>
    extract_lets popped
    have hpopped : popped.Good := h.restack (hstack ▸ h.charged).tail
    split
    · apply hpopped.modify
      · intro f _ hf
        exact ⟨hf.loops_le, hf.costly, hf.early⟩
      · intro f
        exact ⟨Nat.le_refl _, Nat.le_refl _⟩
    · exact ⟨hpopped.functions, hpopped.charged, hpopped.pending, hpopped.errors⟩
    · exact hpopped

theorem popWhile (h : s.Good) (p : Frame → Bool) (line : Nat) : (s.popWhile p line).Good :=
  List.foldlRecOn _ _ h fun _ hs _ _ => hs.pop line

theorem expire (h : s.Good) (line : Nat) : (s.expire line).Good := by
  unfold BlockScan.expire
  split
  · split
    · exact h.unpend
    · exact h
  · exact h

theorem observe (h : s.Good) (rules : Rules) (code : List Char) : (s.observe rules code).Good := by
  have herrors :
      s.errors.guarded + (if s.stack.any (·.guarding) then rules.risk.count code else 0) ≤
        s.errors.risk + rules.risk.count code := by
    have hbefore := h.errors
    split <;> omega
  unfold BlockScan.observe
  extract_lets risk counted
  have hcounted : counted.Good := ⟨h.functions, h.charged, h.pending, herrors⟩
  split
  · exact hcounted
  · next index inner hinner =>
    obtain ⟨g, hg, hnesting, hloops⟩ := h.charged s.stack (List.suffix_refl _) index inner hinner
    apply hcounted.modify
    · intro f hf hwell
      cases hg.symm.trans hf
      apply hwell.charge
      · intro hexits
        have hdepth : 0 < controlDepth inner := by
          by_contra hzero
          simp [hzero] at hexits
        omega
      · intro hcostly
        have hdepth : 0 < loopDepth inner := by
          by_contra hzero
          simp [hzero] at hcostly
        omega
    · intro f
      exact ⟨Nat.le_refl _, Nat.le_refl _⟩

/-! ## Blocks of a line -/

/-- Only a pending declaration makes a block one of a function. -/
theorem pending_of_frameFor {rules : Rules} {context : List Char} {index : Nat}
    (h : (s.frameFor rules context).kind = .function index) :
    ∃ line, s.pending = some (.function index, line) := by
  unfold BlockScan.frameFor at h
  split at h
  · next kind line hpending =>
    cases h
    exact ⟨line, hpending⟩
  · split_ifs at h

theorem openBlock (h : s.Good) (rules : Rules) (context : List Char) (indent : Nat) :
    (s.openBlock rules context indent).Good := by
  apply h.unpend.push
  intro index hkind
  obtain ⟨line, hpending⟩ := pending_of_frameFor hkind
  exact h.pending index line hpending

theorem openInner (h : s.Good) : s.openInner.Good := by
  unfold BlockScan.openInner
  split
  · next kind line hpending =>
    apply h.unpend.push
    rintro index rfl
    exact h.pending index line hpending
  · apply h.push
    nofun

theorem followBraces (h : s.Good) (rules : Rules) (context : List Char) (line : Nat) (first : Bool)
    (code : List Char) : (BlockScan.followBraces rules context line first s code).Good := by
  induction code generalizing first s with
  | nil => exact h
  | cons c rest ih =>
    unfold BlockScan.followBraces
    split
    · apply ih
      split
      · exact h.openBlock rules context 0
      · exact h.openInner
    · split
      · exact ih (h.pop line) first
      · exact ih h first

theorem braces (h : s.Good) (rules : Rules) (line : Nat) (code : List Char) :
    (s.braces rules line code).Good := by
  unfold BlockScan.braces
  simp only
  split
  · exact (h.followBraces ..).unpend
  · exact h.followBraces ..

theorem keywords (h : s.Good) (rules : Rules) (line : Nat) (code : List Char) :
    (s.keywords rules line code).Good := by
  unfold BlockScan.keywords
  extract_lets closed text
  have hclosed : closed.Good := by
    unfold closed
    split
    · exact h.pop line
    · exact h
  split
  · split
    · exact hclosed.unpend
    · exact hclosed.openBlock ..
  · exact hclosed

theorem indented (h : s.Good) (rules : Rules) (code : List Char) (indent : Nat) :
    (s.indented rules code indent).Good := by
  unfold BlockScan.indented
  split
  · exact h.openBlock ..
  · exact h

/-- **Every line of code keeps the invariant.** -/
theorem step (h : s.Good) (rules : Rules) (last line : Nat) (row : Row) :
    (s.step rules last line row).Good := by
  unfold BlockScan.step
  extract_lets expired indent closed taken opened
  have hexpired : expired.Good := h.expire line
  have hclosed : closed.Good := by
    unfold closed
    split
    · exact hexpired.popWhile ..
    · exact hexpired
  have htaken : taken.Good := by
    unfold taken
    split
    · exact hclosed.declare ..
    · exact hclosed.observe ..
  have hopened : opened.Good := by
    unfold opened
    split
    · exact htaken.braces ..
    · exact htaken.keywords ..
    · exact htaken.indented ..
    · exact htaken
  exact ⟨hopened.functions, hopened.charged, hopened.pending, hopened.errors⟩

theorem finish (h : s.Good) (line : Nat) : (s.finish line).Good :=
  h.popWhile ..

end Good

end BlockScan

/-! ## Files -/

namespace Rules

theorem scanRows_good (rules : Rules) (rows : List Row) : (rules.scanRows rows).1.Good := by
  unfold scanRows
  apply List.foldlRecOn (motive := fun state : BlockScan × Nat => state.1.Good)
  · exact .empty
  · rintro ⟨s, last⟩ hs ⟨row, line⟩ -
    simp only
    split
    · exact hs.step ..
    · exact hs

/-- **What the scan of a file finds fits together**, whatever the rules and the lines are. -/
theorem scanBlocks_wellFormed (rules : Rules) (rows : List Row) :
    AllWellFormed (rules.scanBlocks rows).functions ∧
      (rules.scanBlocks rows).errors.guarded ≤ (rules.scanBlocks rows).errors.risk := by
  have hfinished : ((rules.scanRows rows).1.finish (rules.scanRows rows).2).Good :=
    (scanRows_good rules rows).finish _
  exact ⟨hfinished.functions, hfinished.errors⟩

end Rules

end Affinity
