import Mathlib.Logic.Function.Iterate
import Affinity.Proofs.Blocks.Roster

/-!
# The moments of a scan

On every row the scan goes through a number of states: blocks end before the row, the row is
searched for a declaration, its characters open and close blocks. What is true of a state in which
the row is met is carried from each of them to the next.

* `BlockScan.Passes` — the states through which the scan goes on a row.
* `BlockScan.Timely` — recorded lines are positive, and a declaration that waits was recorded with
  the line on which it began to wait.
* `BlockScan.OnRow` — what waits has patience left, and what opened on the row waited for it.
* `BlockScan.Passes.onRow` — this holds in all of these states.
* `BlockScan.Roster.Listed`, `BlockScan.Passes.listed` — what is declared is listed in order.
-/

namespace Affinity

namespace BlockScan

/-- The states through which the scan goes on a row that it meets in the state `s`. -/
inductive Passes (rules : Rules) (last line : Nat) (row : Row) (s : BlockScan) : BlockScan → Prop
  /-- Blocks that ended before the row are closed one by one. -/
  | ending (count : Nat) : Passes rules last line row s ((pop · last)^[count] (s.expire line))
  /-- The row is searched for a declaration. -/
  | registered : Passes rules last line row s
      ((s.arrive rules last line row).register rules line row)
  /-- A word on the row closes a block. -/
  | closed : Passes rules last line row s
      (((s.arrive rules last line row).register rules line row).pop line)
  /-- The characters up to a column are followed. -/
  | followed (column : Nat) : Passes rules last line row s
      (((s.arrive rules last line row).register rules line row).followTo rules line row column)
  /-- The row is left. -/
  | left : Passes rules last line row s (s.step rules last line row)

section Moments

variable {rules : Rules} {last line now : Nat} {row : Row} {s t : BlockScan} {kind : FrameKind}

theorem calm_iterate (s : BlockScan) (line count : Nat) :
    Relation.ReflTransGen (Calm line) s ((pop · line)^[count] s) := by
  induction count with
  | zero => exact .refl
  | succ count ih =>
    rw [Function.iterate_succ_apply']
    exact ih.tail (calm_pop _ line)

theorem roster_iterate (s : BlockScan) (line count : Nat) :
    ((pop · line)^[count] s).roster = s.roster := by
  induction count with
  | zero => rfl
  | succ count ih => rw [Function.iterate_succ_apply', roster_pop, ih]

theorem pending_iterate (s : BlockScan) (line count : Nat) :
    ((pop · line)^[count] s).pending = s.pending := by
  induction count with
  | zero => rfl
  | succ count ih => rw [Function.iterate_succ_apply', pending_pop, ih]

/-- A row is met after some blocks were closed. -/
theorem exists_arrive_eq (rules : Rules) (s : BlockScan) (last line : Nat) (row : Row) :
    ∃ count, s.arrive rules last line row = (pop · last)^[count] (s.expire line) := by
  unfold arrive
  extract_lets expired
  split
  · exact ⟨_, List.foldl_const (pop · last) expired _⟩
  · exact ⟨0, rfl⟩

/-! ## Calm moves -/

/-- A move without a new block keeps the first line of every declaration. -/
theorem Calm.line_span? (h : Calm now s t) {span : Span} (hspan : s.span? kind = some span) :
    ∃ later, t.span? kind = some later ∧ later.line = span.line := by
  have hsome : (s.span? kind).isSome := by simp [hspan]
  rcases h.span?_cases with ⟨_, hspans⟩ | ⟨closed, _, hspans⟩
  · exact ⟨span, by rw [hspans kind hsome, hspan], rfl⟩
  · by_cases hkind : kind = closed
    · exact ⟨span.closeAt now, by rw [hspans, if_pos hkind, hspan]; rfl, rfl⟩
    · exact ⟨span, by rw [hspans, if_neg hkind, hspan], rfl⟩

theorem Calm.openKinds_subset (h : Calm now s t) : t.openKinds ⊆ s.openKinds := by
  rcases h.span?_cases with ⟨hsame, _⟩ | ⟨closed, hclosed, _⟩
  · rw [hsame]
    exact List.Subset.refl _
  · rw [hclosed]
    exact List.subset_cons_self ..

theorem openKinds_subset_of_calm (h : Relation.ReflTransGen (Calm now) s t) :
    t.openKinds ⊆ s.openKinds := by
  induction h with
  | refl => exact List.Subset.refl _
  | tail _ hcalm ih => exact List.Subset.trans hcalm.openKinds_subset ih

/-! ## Recorded lines -/

/-- Everything is dated, every recorded line and length is positive, and what waits for its block
was recorded with the line from which on it waits. -/
structure Timely (now : Nat) (s : BlockScan) : Prop extends Dated now s where
  positive : ∀ kind span, s.span? kind = some span → 1 ≤ span.line ∧ 1 ≤ span.lines
  waiting : ∀ kind declared, s.pending = some (kind, declared) →
    ∃ span, s.span? kind = some span ∧ span.line = declared + 1

theorem timely_empty : Timely 0 {} where
  toDated := dated_empty
  positive kind span h := by cases kind <;> cases h
  waiting := nofun

theorem Timely.calm (h : Timely now s) (hcalm : Calm now s t) : Timely now t where
  toDated := h.toDated.calm hcalm
  positive kind span hspan := by
    cases hcalm with
    | quiet hquiet =>
      rw [hquiet.spans] at hspan
      exact h.positive kind span hspan
    | closes frame _ _ spans =>
      rw [spans] at hspan
      split at hspan
      · obtain ⟨before, hbefore, rfl⟩ := Option.map_eq_some_iff.1 hspan
        exact ⟨(h.positive kind before hbefore).1, Nat.le_add_left ..⟩
      · exact h.positive kind span hspan
    | declares declaration _ _ spans =>
      rw [spans] at hspan
      split at hspan
      · cases hspan
        exact ⟨Nat.le_add_left .., Nat.le_refl 1⟩
      · exact h.positive kind span hspan
  waiting kind declared hpending := by
    have hkept : s.pending = some (kind, declared) →
        ∃ span, t.span? kind = some span ∧ span.line = declared + 1 := by
      intro hbefore
      obtain ⟨span, hspan, hline⟩ := h.waiting kind declared hbefore
      obtain ⟨later, hlater, hsame⟩ := hcalm.line_span? hspan
      exact ⟨later, hlater, hsame.trans hline⟩
    cases hcalm with
    | quiet hquiet =>
      rcases hquiet.pending with hsame | hnone
      · exact hkept (hsame.symm.trans hpending)
      · rw [hnone] at hpending
        cases hpending
    | closes _ _ pending _ => exact hkept (pending.symm.trans hpending)
    | declares declaration _ pending spans =>
      rw [pending] at hpending
      cases hpending
      exact ⟨⟨now + 1, 1⟩, by rw [spans, if_pos rfl], rfl⟩

theorem Timely.opens (h : Timely now s) {frame : Frame} (hopens : Opens frame s t) :
    Timely now t where
  toDated := h.toDated.opens hopens
  positive := by
    rw [hopens.spans]
    exact h.positive
  waiting := by
    rw [hopens.pending]
    nofun

theorem Timely.later {next : Nat} (h : Timely now s) (hnext : now ≤ next) : Timely next s :=
  { h with toDated := h.toDated.later hnext }

theorem Timely.calms (h : Timely now s) (hcalms : Relation.ReflTransGen (Calm now) s t) :
    Timely now t := by
  induction hcalms with
  | refl => exact h
  | tail _ hcalm ih => exact ih.calm hcalm

/-! ## A row -/

/-- The block of the declaration opened on line `line`: not before the line of the declaration and
at most `patience` lines after it. -/
def InTime (s : BlockScan) (line : Nat) (kind : FrameKind) : Prop :=
  ∃ span, s.span? kind = some span ∧ span.line ≤ line + 1 ∧ line + 1 ≤ span.line + patience

/-- What is true on a row that was met with the blocks `before`. -/
structure OnRow (before : List FrameKind) (line : Nat) (s : BlockScan) : Prop extends
    Timely line s where
  /-- What still waits has not waited too long. -/
  patient : ∀ kind declared, s.pending = some (kind, declared) → line ≤ declared + patience
  opened : ∀ kind ∈ s.openKinds, kind.isDeclared → kind ∈ before ∨ s.InTime line kind

theorem OnRow.calm {before : List FrameKind} (h : OnRow before line s) (hcalm : Calm line s t) :
    OnRow before line t where
  toTimely := h.toTimely.calm hcalm
  patient kind declared hpending := by
    cases hcalm with
    | quiet hquiet =>
      rcases hquiet.pending with hsame | hnone
      · exact h.patient kind declared (hsame.symm.trans hpending)
      · rw [hnone] at hpending
        cases hpending
    | closes _ _ pending _ => exact h.patient kind declared (pending.symm.trans hpending)
    | declares _ _ pending _ =>
      rw [pending] at hpending
      cases hpending
      exact Nat.le_add_right ..
  opened kind hkind hdeclared := by
    refine (h.opened kind (hcalm.openKinds_subset hkind) hdeclared).imp_right ?_
    rintro ⟨span, hspan, hbounds⟩
    obtain ⟨later, hlater, hsame⟩ := hcalm.line_span? hspan
    exact ⟨later, hlater, hsame ▸ hbounds⟩

/-- A declaration that still waits is in time if its block opens now. -/
theorem OnRow.inTime_of_waits {before : List FrameKind} (h : OnRow before line s)
    (hwaits : s.Waits kind) : s.InTime line kind := by
  obtain ⟨declared, hpending⟩ := hwaits
  obtain ⟨span, hspan, hline⟩ := h.waiting kind declared hpending
  have hpatient := h.patient kind declared hpending
  have hbound := (h.bounds kind span hspan).1
  exact ⟨span, hspan, hbound, by omega⟩

theorem OnRow.opens {before : List FrameKind} (h : OnRow before line s) {frame : Frame}
    (hopens : Opens frame s t) : OnRow before line t where
  toTimely := h.toTimely.opens hopens
  patient := by
    rw [hopens.pending]
    nofun
  opened kind hkind hdeclared := by
    unfold InTime
    rw [hopens.spans]
    rw [hopens.openKinds, List.mem_cons] at hkind
    rcases hkind with rfl | hkind
    · -- the block is that of the declaration that waited until now
      exact .inr (h.inTime_of_waits (hopens.waited hdeclared))
    · exact h.opened kind hkind hdeclared

theorem OnRow.moves {before : List FrameKind} (h : OnRow before line s)
    (hmoves : Relation.ReflTransGen (Move line) s t) : OnRow before line t := by
  induction hmoves with
  | refl => exact h
  | tail _ hmove ih =>
    rcases hmove with hcalm | ⟨frame, hopens⟩
    · exact ih.calm hcalm
    · exact ih.opens hopens

/-- The characters of a row make moves on its line. -/
theorem moves_followTo (rules : Rules) (s : BlockScan) (line : Nat) (row : Row) (column : Nat) :
    Relation.ReflTransGen (Move line) s (s.followTo rules line row column) := by
  induction column with
  | zero =>
    obtain ⟨t, hcalm, hmove⟩ := followTo_zero rules s line row
    exact (Relation.ReflTransGen.single (.inl hcalm)).tail hmove
  | succ column ih => exact ih.tail (followTo_succ rules s line row column)

theorem patient_expire {declared : Nat} (h : (s.expire line).pending = some (kind, declared)) :
    line ≤ declared + patience := by
  unfold expire at h
  split at h
  · next waiting since hpending =>
    split at h
    · cases h
    · next hpatient =>
      rw [hpending] at h
      cases h
      exact Nat.le_of_not_lt hpatient
  · next hnone =>
    rw [hnone] at h
    cases h

/-- Before a row, blocks end on the line before; what waited too long is given up. -/
theorem Timely.ending (h : Timely last s) (hlast : last ≤ line) (count : Nat) :
    OnRow s.openKinds line ((pop · last)^[count] (s.expire line)) := by
  have hcalms : Relation.ReflTransGen (Calm last) s ((pop · last)^[count] (s.expire line)) :=
    .head (calm_expire last line s) (calm_iterate _ last count)
  refine { toTimely := (h.calms hcalms).later hlast, patient := ?_, opened := ?_ }
  · intro kind declared hpending
    rw [pending_iterate] at hpending
    exact patient_expire hpending
  · exact fun kind hkind _ => .inl (openKinds_subset_of_calm hcalms hkind)

/-- **Every moment of a row keeps the invariant.** -/
theorem Passes.onRow (h : Passes rules last line row s t) (hs : Timely last s)
    (hlast : last ≤ line) : OnRow s.openKinds line t := by
  have hregistered : OnRow s.openKinds line
      ((s.arrive rules last line row).register rules line row) := by
    obtain ⟨count, harrive⟩ := exists_arrive_eq rules s last line row
    rw [harrive]
    exact (hs.ending hlast count).calm (calm_register ..)
  cases h with
  | ending count => exact hs.ending hlast count
  | registered => exact hregistered
  | closed => exact hregistered.calm (calm_pop _ line)
  | followed column => exact hregistered.moves (moves_followTo ..)
  | left =>
    exact (hregistered.moves (moves_followTo ..)).calm (.quiet (quiet_step ..))

/-! ## Declarations in order -/

/-- The declarations come line by line, all before the line `bound`, and each of them is a function
or a class. -/
structure Roster.Listed (bound : Nat) (r : Roster) : Prop where
  order : r.declarations.Pairwise fun a b => a.1 < b.1
  before : ∀ entry ∈ r.declarations, entry.1 < bound
  count : r.declarations.length = r.functions + r.classes.length

theorem Roster.Listed.mono {r : Roster} {bound bound' : Nat} (h : r.Listed bound)
    (hle : bound ≤ bound') : r.Listed bound' where
  order := h.order
  before entry hentry := (h.before entry hentry).trans_le hle
  count := h.count

theorem Roster.Listed.declare {r : Roster} (h : r.Listed line) (owner : Option Nat)
    (declaration : Declaration) : (r.declare owner line declaration).Listed (line + 1) where
  order := by
    have hdeclarations : (r.declare owner line declaration).declarations =
        r.declarations ++ [(line, declaration)] := by
      cases declaration <;> rfl
    rw [hdeclarations, List.pairwise_append]
    refine ⟨h.order, List.pairwise_singleton .., ?_⟩
    intro entry hentry new hnew
    rw [List.mem_singleton.1 hnew]
    exact h.before entry hentry
  before entry hentry := by
    have hentry : entry ∈ r.declarations ++ [(line, declaration)] := by
      cases declaration <;> exact hentry
    rw [List.mem_append, List.mem_singleton] at hentry
    rcases hentry with hbefore | rfl
    · exact (h.before entry hbefore).trans (Nat.lt_succ_self line)
    · exact Nat.lt_succ_self line
  count := by
    have hcount := h.count
    cases declaration with
    | function name params receiver =>
      cases owner <;> simp [Roster.declare, Roster.credit] <;> omega
    | classLike name =>
      simp [Roster.declare]
      omega

theorem Roster.Listed.register (h : s.roster.Listed line) (rules : Rules) (row : Row) :
    (s.register rules line row).roster.Listed (line + 1) := by
  rw [roster_register]
  split
  · exact h.declare _ _
  · exact h.mono (Nat.le_succ line)

/-- At every moment of a row, what is declared is listed in order. -/
theorem Passes.listed (h : Passes rules last line row s t) (hs : s.roster.Listed line) :
    t.roster.Listed (line + 1) := by
  have harrived : (s.arrive rules last line row).roster.Listed line := by
    rw [roster_arrive]
    exact hs
  have hregistered := harrived.register rules row
  cases h with
  | ending count =>
    rw [roster_iterate, roster_expire]
    exact hs.mono (Nat.le_succ line)
  | registered => exact hregistered
  | closed =>
    rw [roster_pop]
    exact hregistered
  | followed column =>
    rw [roster_followTo]
    exact hregistered
  | left =>
    rw [roster_step]
    exact hregistered

end Moments

end BlockScan

end Affinity
