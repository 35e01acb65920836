import Mathlib.Data.List.Basic
import Mathlib.Data.List.Induction
import Affinity.Proofs.Blocks.Moves
import Affinity.Rules.Tables

/-!
# Declarations inside the blocks of others

A declaration that is met inside the block of another one ends no later than that one, provided its
own block opens before the outer block is closed. But the declaration that waits for its block is
kept apart from the stack: if it has no block and the outer one is closed, it takes the next block
that opens, and that ends no earlier.

* `BlockScan.Advance` — the moves of a scan, with the line on which each is made.
* `BlockScan.Within`, `BlockScan.Outlives` — what the moves keep true of the inner and the outer
  declaration before and after the block of the inner one opened outside.
* `Rules.endsBy_of_not_opensOutside`, `Rules.endsBy_of_opensOutside` — which of both ends first.
* `Rules.scanBlocks_nested_iff` — when the inner declaration ends no later.
* `Rules.one_line_method_outlives_class` — a method without a body that ends behind its class.
-/

namespace Affinity

namespace BlockScan

/-! ## Runs -/

/-- One move of a scan that stands on a line, or the way to a later line. After a move that opened a
block, `P` holds. -/
inductive Advance (P : BlockScan → Prop) : Nat × BlockScan → Nat × BlockScan → Prop
  | calm {now : Nat} {s t : BlockScan} (h : Calm now s t) : Advance P (now, s) (now, t)
  | opens {now : Nat} {s t : BlockScan} (frame : Frame) (h : Opens frame s t) (hP : P t) :
      Advance P (now, s) (now, t)
  | later {now next : Nat} {s : BlockScan} (h : now ≤ next) : Advance P (now, s) (next, s)

/-- Any number of moves. -/
def Run (P : BlockScan → Prop) : Nat × BlockScan → Nat × BlockScan → Prop :=
  Relation.ReflTransGen (Advance P)

/-- What every move keeps, a run keeps. -/
theorem Run.keeps {P : BlockScan → Prop} {I : Nat × BlockScan → Prop} {p q : Nat × BlockScan}
    (hrun : Run P p q) (hmove : ∀ p q, Advance P p q → I p → I q) (h : I p) : I q := by
  induction hrun with
  | refl => exact h
  | tail _ hadvance ih => exact hmove _ _ hadvance ih

section Lines

variable {P : BlockScan → Prop} {s t : BlockScan} {now : Nat}

theorem Run.of_calm (h : Relation.ReflTransGen (Calm now) s t) : Run P (now, s) (now, t) := by
  induction h with
  | refl => exact .refl
  | tail _ hcalm ih => exact ih.tail (.calm hcalm)

theorem Run.of_move (h : Move now s t) (hP : P t) : Run P (now, s) (now, t) := by
  rcases h with hcalm | ⟨frame, hopens⟩
  · exact .single (.calm hcalm)
  · exact .single (.opens frame hopens hP)

/-- The blocks of a line from a column on. -/
theorem run_followTo_add {rules : Rules} (s : BlockScan) (line : Nat) (row : Row)
    (hP : ∀ column, P (s.followTo rules line row column)) (column count : Nat) :
    Run P (line, s.followTo rules line row column)
      (line, s.followTo rules line row (column + count)) := by
  induction count with
  | zero => exact .refl
  | succ count ih => exact ih.trans (Run.of_move (followTo_succ ..) (hP _))

/-- The blocks of a line up to a column. -/
theorem run_followTo {rules : Rules} (s : BlockScan) (line : Nat) (row : Row)
    (hP : ∀ column, P (s.followTo rules line row column)) (column : Nat) :
    Run P (line, s) (line, s.followTo rules line row column) := by
  obtain ⟨t, hcalm, hmove⟩ := followTo_zero rules s line row
  have hfirst : Run P (line, s) (line, s.followTo rules line row 0) :=
    .head (.calm hcalm) (Run.of_move hmove (hP 0))
  have hrest := run_followTo_add s line row hP 0 column
  rw [Nat.zero_add] at hrest
  exact hfirst.trans hrest

/-- Behind the end of a line no further block is found. -/
theorem followTo_of_length_le (rules : Rules) (s : BlockScan) (line : Nat) {row : Row}
    {column : Nat} (h : row.code.length ≤ column) :
    s.followTo rules line row column = s.followTo rules line row row.code.length := by
  unfold followTo
  rw [List.take_of_length_le h, List.take_length]

end Lines

/-! ## What moves keep -/

/-- The declaration waits for its block. -/
def Waits (s : BlockScan) (kind : FrameKind) : Prop := ∃ line, s.pending = some (kind, line)

/-- The recorded lines of `a` end no later than those of `b`. -/
def EndsBy (s : BlockScan) (a b : FrameKind) : Prop :=
  ∀ i o, s.span? a = some i → s.span? b = some o → i.last ≤ o.last

/-- The declarations with an open block and the one that waits are recorded, and no recorded line
is ahead of the scan. -/
structure Dated (now : Nat) (s : BlockScan) : Prop where
  recorded : ∀ kind, kind.isDeclared → kind ∈ s.openKinds ∨ s.Waits kind → (s.span? kind).isSome
  bounds : ∀ kind span, s.span? kind = some span → span.line ≤ now + 1 ∧ span.last ≤ now + 1

theorem dated_empty : Dated 0 {} where
  recorded kind _ h := by
    rcases h with hopen | ⟨line, hwaits⟩
    · cases hopen
    · cases hwaits
  bounds kind span h := by cases kind <;> cases h

section Moves

variable {P : BlockScan → Prop} {now line : Nat} {s t : BlockScan} {kind inner outer : FrameKind}

/-- A move without a new block keeps the recorded lines of every declaration but that of the block
that it closes, if any. -/
theorem Calm.span?_cases (h : Calm now s t) :
    (t.openKinds = s.openKinds ∧
        ∀ kind, (s.span? kind).isSome → t.span? kind = s.span? kind) ∨
      ∃ closed, s.openKinds = closed :: t.openKinds ∧ ∀ kind, t.span? kind =
        if kind = closed then (s.span? kind).map (Span.closeAt now) else s.span? kind := by
  cases h with
  | quiet h => exact .inl ⟨by rw [openKinds, h.stack]; rfl, fun _ _ => by rw [h.spans]⟩
  | closes frame stack _ spans => exact .inr ⟨frame.kind, by rw [openKinds, stack]; rfl, spans⟩
  | declares declaration stack _ spans =>
    refine .inl ⟨by rw [openKinds, stack]; rfl, fun kind hkind => ?_⟩
    -- what is declared was not recorded before
    have hother : kind ≠ s.kindFor declaration := by
      rintro rfl
      rw [span?_kindFor] at hkind
      cases hkind
    rw [spans, if_neg hother]

theorem Calm.isSome_span? (h : Calm now s t) (hkind : (s.span? kind).isSome) :
    (t.span? kind).isSome := by
  rcases h.span?_cases with ⟨_, hspans⟩ | ⟨closed, _, hspans⟩
  · rwa [hspans kind hkind]
  · rw [hspans]
    split
    · rwa [Option.isSome_map]
    · exact hkind

/-- Only what is declared now starts to wait. -/
theorem Calm.waits (h : Calm now s t) (hwaits : t.Waits kind) :
    s.Waits kind ∨ (s.span? kind = none ∧ t.span? kind = some ⟨now + 1, 1⟩) := by
  obtain ⟨line, hline⟩ := hwaits
  cases h with
  | quiet h =>
    rcases h.pending with hsame | hnone
    · exact .inl ⟨line, hsame.symm.trans hline⟩
    · rw [hnone] at hline
      cases hline
  | closes _ _ pending _ => exact .inl ⟨line, pending.symm.trans hline⟩
  | declares declaration _ pending spans =>
    rw [pending] at hline
    cases hline
    exact .inr ⟨span?_kindFor s declaration, by rw [spans, if_pos rfl]⟩

theorem Opens.openKinds {frame : Frame} (h : Opens frame s t) :
    t.openKinds = frame.kind :: s.openKinds := by
  rw [BlockScan.openKinds, h.stack]
  rfl

theorem Dated.calm (h : Dated now s) (hcalm : Calm now s t) : Dated now t where
  recorded kind hdeclared hkind := by
    rcases hkind with hopen | hwaits
    · refine hcalm.isSome_span? (h.recorded kind hdeclared (.inl ?_))
      rcases hcalm.span?_cases with ⟨hsame, _⟩ | ⟨closed, hclosed, _⟩
      · rwa [← hsame]
      · rw [hclosed]
        exact List.mem_cons_of_mem closed hopen
    · rcases hcalm.waits hwaits with hbefore | ⟨_, hspan⟩
      · exact hcalm.isSome_span? (h.recorded kind hdeclared (.inr hbefore))
      · rw [hspan]
        rfl
  bounds kind span hspan := by
    cases hcalm with
    | quiet hquiet =>
      rw [hquiet.spans] at hspan
      exact h.bounds kind span hspan
    | closes frame _ _ spans =>
      rw [spans] at hspan
      split at hspan
      · obtain ⟨open', hopen, rfl⟩ := Option.map_eq_some_iff.1 hspan
        have hline := (h.bounds kind open' hopen).1
        exact ⟨hline, (Span.last_closeAt hline).le⟩
      · exact h.bounds kind span hspan
    | declares declaration _ _ spans =>
      rw [spans] at hspan
      split at hspan
      · cases hspan
        exact ⟨Nat.le_refl _, Nat.le_refl _⟩
      · exact h.bounds kind span hspan

theorem Dated.opens (h : Dated now s) {frame : Frame} (hopens : Opens frame s t) :
    Dated now t where
  recorded kind hdeclared hkind := by
    rw [hopens.spans]
    rcases hkind with hopen | ⟨line, hline⟩
    · rw [hopens.openKinds, List.mem_cons] at hopen
      rcases hopen with rfl | hopen
      · exact h.recorded _ hdeclared (.inr (hopens.waited hdeclared))
      · exact h.recorded kind hdeclared (.inl hopen)
    · rw [hopens.pending] at hline
      cases hline
  bounds := by
    rw [hopens.spans]
    exact h.bounds

theorem Dated.later {next : Nat} (h : Dated now s) (hnext : now ≤ next) : Dated next s where
  recorded := h.recorded
  bounds kind span hspan := by
    have hbounds := h.bounds kind span hspan
    omega

theorem Dated.advance {p q : Nat × BlockScan} (hadvance : Advance P p q)
    (h : Dated p.1 p.2) : Dated q.1 q.2 := by
  cases hadvance with
  | calm hcalm => exact h.calm hcalm
  | opens _ hopens _ => exact h.opens hopens
  | later hnext => exact h.later hnext

/-- Two declarations are recorded, of which the block of the outer one was open before. -/
structure Both (inner outer : FrameKind) (now : Nat) (s : BlockScan) : Prop extends
    Dated now s where
  inner_isSome : (s.span? inner).isSome
  outer_isSome : (s.span? outer).isSome
  settled : ¬ s.Waits outer

theorem Both.calm (h : Both inner outer now s) (hcalm : Calm now s t) :
    Both inner outer now t where
  toDated := h.toDated.calm hcalm
  inner_isSome := hcalm.isSome_span? h.inner_isSome
  outer_isSome := hcalm.isSome_span? h.outer_isSome
  settled hwaits := by
    rcases hcalm.waits hwaits with hbefore | ⟨hnone, _⟩
    · exact h.settled hbefore
    · have hsome := h.outer_isSome
      rw [hnone] at hsome
      cases hsome

theorem Both.opens (h : Both inner outer now s) {frame : Frame} (hopens : Opens frame s t) :
    Both inner outer now t where
  toDated := h.toDated.opens hopens
  inner_isSome := by rw [hopens.spans]; exact h.inner_isSome
  outer_isSome := by rw [hopens.spans]; exact h.outer_isSome
  settled hwaits := by
    obtain ⟨line, hline⟩ := hwaits
    rw [hopens.pending] at hline
    cases hline

theorem Both.later {next : Nat} (h : Both inner outer now s) (hnext : now ≤ next) :
    Both inner outer next s := { h with toDated := h.toDated.later hnext }

theorem Both.advance {p q : Nat × BlockScan} (hadvance : Advance P p q)
    (h : Both inner outer p.1 p.2) : Both inner outer q.1 q.2 := by
  cases hadvance with
  | calm hcalm => exact h.calm hcalm
  | opens _ hopens _ => exact h.opens hopens
  | later hnext => exact h.later hnext

/-- The block of a settled declaration does not open again. -/
theorem Both.ne_kind (h : Both inner outer now s) (houter : outer.isDeclared) {frame : Frame}
    (hopens : Opens frame s t) : outer ≠ frame.kind := by
  rintro rfl
  exact h.settled (hopens.waited houter)

/-- A declaration that closes now ends no earlier than any other. -/
theorem Dated.endsBy_of_closes (h : Dated now s) {closed other : FrameKind}
    (hne : other ≠ closed)
    (hspans : ∀ kind, t.span? kind =
      if kind = closed then (s.span? kind).map (Span.closeAt now) else s.span? kind) :
    t.EndsBy other closed := by
  intro i o hi ho
  rw [hspans, if_neg hne] at hi
  rw [hspans, if_pos rfl] at ho
  obtain ⟨before, hbefore, rfl⟩ := Option.map_eq_some_iff.1 ho
  rw [Span.last_closeAt (h.bounds _ _ hbefore).1]
  exact (h.bounds _ _ hi).2

theorem EndsBy.congr {a b : FrameKind} (h : s.EndsBy a b) (ha : t.span? a = s.span? a)
    (hb : t.span? b = s.span? b) : t.EndsBy a b := by
  intro i o hi ho
  exact h i o (ha ▸ hi) (hb ▸ ho)

/-! ## Before a block opens outside -/

/-- The block of `inner` is open, but not that of `outer`. -/
def Outside (inner outer : FrameKind) (s : BlockScan) : Prop :=
  inner ∈ s.openKinds ∧ outer ∉ s.openKinds

/-- The block of `inner` never stands around that of `outer`, and as soon as `outer` is closed
`inner` has ended. -/
structure Within (inner outer : FrameKind) (now : Nat) (s : BlockScan) : Prop extends
    Both inner outer now s where
  order : ¬ [outer, inner].Sublist s.openKinds
  ended : outer ∉ s.openKinds → inner ∉ s.openKinds ∧ s.EndsBy inner outer

theorem Within.calm (hne : inner ≠ outer) (h : Within inner outer now s)
    (hcalm : Calm now s t) : Within inner outer now t := by
  refine { h.toBoth.calm hcalm with order := ?_, ended := ?_ }
  · rcases hcalm.span?_cases with ⟨hsame, _⟩ | ⟨closed, hclosed, _⟩
    · rw [hsame]
      exact h.order
    · refine fun horder => h.order ?_
      rw [hclosed]
      exact horder.cons closed
  · intro houter
    rcases hcalm.span?_cases with ⟨hsame, hspans⟩ | ⟨closed, hclosed, hspans⟩
    · rw [hsame] at houter ⊢
      obtain ⟨hinner, hends⟩ := h.ended houter
      exact ⟨hinner, hends.congr (hspans inner h.inner_isSome) (hspans outer h.outer_isSome)⟩
    by_cases hkind : closed = outer
    · -- the outer block closes: the inner one is not around it, and ends no later
      subst hkind
      refine ⟨fun hinner => h.order ?_, h.endsBy_of_closes hne hspans⟩
      rw [hclosed]
      exact (List.singleton_sublist.2 hinner).cons_cons closed
    · have hbefore : outer ∉ s.openKinds := by
        rw [hclosed, List.mem_cons, not_or]
        exact ⟨Ne.symm hkind, houter⟩
      obtain ⟨hinner, hends⟩ := h.ended hbefore
      rw [hclosed, List.mem_cons, not_or] at hinner
      refine ⟨hinner.2, hends.congr ?_ ?_⟩
      · rw [hspans, if_neg hinner.1]
      · rw [hspans, if_neg (Ne.symm hkind)]

theorem Within.opens (houter : outer.isDeclared) (h : Within inner outer now s) {frame : Frame}
    (hopens : Opens frame s t) (hinside : ¬ Outside inner outer t) :
    Within inner outer now t := by
  have hkind : outer ≠ frame.kind := h.toBoth.ne_kind houter hopens
  refine { h.toBoth.opens hopens with order := ?_, ended := ?_ }
  · rw [hopens.openKinds, List.cons_sublist_cons']
    rintro (horder | ⟨hsame, _⟩)
    · exact h.order horder
    · exact hkind hsame
  · intro hclosed
    refine ⟨fun hinner => hinside ⟨hinner, hclosed⟩, ?_⟩
    rw [hopens.openKinds, List.mem_cons, not_or] at hclosed
    exact (h.ended hclosed.2).2.congr (by rw [hopens.spans]) (by rw [hopens.spans])

theorem Within.advance (hne : inner ≠ outer) (houter : outer.isDeclared) {p q : Nat × BlockScan}
    (hadvance : Advance (fun t => ¬ Outside inner outer t) p q)
    (h : Within inner outer p.1 p.2) : Within inner outer q.1 q.2 := by
  cases hadvance with
  | calm hcalm => exact h.calm hne hcalm
  | opens _ hopens hinside => exact h.opens houter hopens hinside
  | later hnext => exact { h with toBoth := h.toBoth.later hnext }

/-! ## After a block opened outside -/

/-- The block of `outer` is closed for good; that of `inner` is open or ended no earlier. -/
structure Outlives (inner outer : FrameKind) (now : Nat) (s : BlockScan) : Prop extends
    Both inner outer now s where
  closed : outer ∉ s.openKinds
  ended : inner ∈ s.openKinds ∨ s.EndsBy outer inner

theorem Outlives.calm (hne : inner ≠ outer) (h : Outlives inner outer now s)
    (hcalm : Calm now s t) : Outlives inner outer now t := by
  rcases hcalm.span?_cases with ⟨hsame, hspans⟩ | ⟨closed, hclosed, hspans⟩
  · refine { h.toBoth.calm hcalm with closed := ?_, ended := ?_ }
    · rw [hsame]
      exact h.closed
    · rw [hsame]
      exact h.ended.imp_right fun hends =>
        hends.congr (hspans outer h.outer_isSome) (hspans inner h.inner_isSome)
  · have houter := h.closed
    rw [hclosed, List.mem_cons, not_or] at houter
    refine { h.toBoth.calm hcalm with closed := houter.2, ended := ?_ }
    by_cases hkind : closed = inner
    · subst hkind
      exact .inr (h.endsBy_of_closes hne.symm hspans)
    · rcases h.ended with hinner | hends
      · rw [hclosed, List.mem_cons] at hinner
        exact .inl (hinner.resolve_left (Ne.symm hkind))
      · refine .inr (hends.congr ?_ ?_)
        · rw [hspans, if_neg houter.1]
        · rw [hspans, if_neg (Ne.symm hkind)]

theorem Outlives.opens (houter : outer.isDeclared) (h : Outlives inner outer now s)
    {frame : Frame} (hopens : Opens frame s t) : Outlives inner outer now t := by
  refine { h.toBoth.opens hopens with closed := ?_, ended := ?_ }
  · rw [hopens.openKinds, List.mem_cons, not_or]
    exact ⟨h.toBoth.ne_kind houter hopens, h.closed⟩
  · rw [hopens.openKinds]
    exact h.ended.imp (List.mem_cons_of_mem _)
      fun hends => hends.congr (by rw [hopens.spans]) (by rw [hopens.spans])

theorem Outlives.advance (hne : inner ≠ outer) (houter : outer.isDeclared)
    {p q : Nat × BlockScan} (hadvance : Advance P p q) (h : Outlives inner outer p.1 p.2) :
    Outlives inner outer q.1 q.2 := by
  cases hadvance with
  | calm hcalm => exact h.calm hne hcalm
  | opens _ hopens _ => exact h.opens houter hopens
  | later hnext => exact { h with toBoth := h.toBoth.later hnext }

end Moves

end BlockScan

/-! ## Rows -/

namespace Rules

open BlockScan

variable {rules : Rules} {P : BlockScan → Prop}

/-- The state in which the row behind the rows `before` is met. -/
def stateAt (rules : Rules) (before : List Row) (row : Row) : BlockScan :=
  (rules.scanRows before).1.arrive rules (rules.scanRows before).2 before.length row

/-- The state behind the first `column` characters of that row. -/
def stateIn (rules : Rules) (before : List Row) (row : Row) (column : Nat) : BlockScan :=
  ((rules.stateAt before row).register rules before.length row).followTo rules before.length row
    column

theorem scanRows_concat (rules : Rules) (rows : List Row) (row : Row) :
    rules.scanRows (rows ++ [row]) =
      if row.isCode then
        ((rules.scanRows rows).1.step rules (rules.scanRows rows).2 rows.length row, rows.length)
      else rules.scanRows rows := by
  unfold scanRows
  rw [List.zipIdx_append, List.foldl_append, Nat.zero_add]
  rfl

theorem scanRows_snd_le (rules : Rules) (rows : List Row) :
    (rules.scanRows rows).2 ≤ rows.length := by
  induction rows using List.reverseRecOn with
  | nil => exact Nat.le_refl 0
  | append_singleton rows row ih =>
    rw [scanRows_concat, List.length_append]
    split
    · exact Nat.le_add_right ..
    · exact ih.trans (Nat.le_add_right ..)

/-- The scan as a point of a run. -/
def reached (rules : Rules) (rows : List Row) : Nat × BlockScan :=
  ((rules.scanRows rows).2, (rules.scanRows rows).1)

/-- From the rows before to a row. -/
theorem run_stateAt (before : List Row) (row : Row) :
    Run P (rules.reached before) (before.length, rules.stateAt before row) := by
  have harrive : Run P (rules.reached before)
      ((rules.scanRows before).2, rules.stateAt before row) := .of_calm (calm_arrive ..)
  exact harrive.tail (.later (rules.scanRows_snd_le before))

/-- From the rows before to a place on a row. -/
theorem run_stateIn {before : List Row} {row : Row}
    (hP : ∀ column, P (rules.stateIn before row column)) (column : Nat) :
    Run P (rules.reached before) (before.length, rules.stateIn before row column) :=
  (run_stateAt before row).trans
    (.head (.calm (calm_register ..)) (run_followTo _ _ _ hP column))

/-- From a place on a row to the rows behind it. -/
theorem run_reached_concat {before : List Row} {row : Row} (hrow : row.isCode)
    (hP : ∀ column, P (rules.stateIn before row column)) (column : Nat) :
    Run P (before.length, rules.stateIn before row column)
      (rules.reached (before ++ [row])) := by
  have hend : rules.stateIn before row (column + row.code.length) =
      rules.stateIn before row row.code.length :=
    followTo_of_length_le _ _ _ (Nat.le_add_left ..)
  have hline : Run P (before.length, rules.stateIn before row column)
      (before.length, rules.stateIn before row row.code.length) := by
    rw [← hend]
    exact run_followTo_add _ _ _ hP column row.code.length
  have hstep : rules.reached (before ++ [row]) =
      (before.length, (rules.scanRows before).1.step rules (rules.scanRows before).2
        before.length row) := by
    rw [reached, scanRows_concat, if_pos hrow]
  rw [hstep]
  exact hline.tail (.calm (.quiet (quiet_step ..)))

/-- From the rows before to further rows. -/
theorem run_reached_append {before further : List Row}
    (hP : ∀ between row after, further = between ++ row :: after → row.isCode →
      ∀ column, P (rules.stateIn (before ++ between) row column)) :
    Run P (rules.reached before) (rules.reached (before ++ further)) := by
  induction further using List.reverseRecOn with
  | nil =>
    rw [List.append_nil]
    exact .refl
  | append_singleton further row ih =>
    have hfurther : Run P (rules.reached before) (rules.reached (before ++ further)) := by
      apply ih
      intro between other after hsplit
      exact hP between other (after ++ [row]) (by rw [hsplit, List.append_assoc]; rfl)
    rw [← List.append_assoc]
    by_cases hrow : row.isCode
    · have hlast := hP further row [] rfl hrow
      exact hfurther.trans ((run_stateIn hlast 0).trans (run_reached_concat hrow hlast 0))
    · have hskip : rules.reached (before ++ further ++ [row]) =
          rules.reached (before ++ further) := by
        rw [reached, scanRows_concat, if_neg hrow]
        rfl
      rw [hskip]
      exact hfurther

/-- What ends at the end of the file. -/
def finished (rules : Rules) (rows : List Row) : Nat × BlockScan :=
  ((rules.scanRows rows).2, (rules.scanRows rows).1.finish (rules.scanRows rows).2)

theorem openKinds_finished (rules : Rules) (rows : List Row) :
    (rules.finished rows).2.openKinds = [] := by
  rw [finished, openKinds, stack_finish]
  rfl

/-- From a place on a row to the end. -/
theorem run_finished {before after : List Row} {row : Row} (hrow : row.isCode)
    (hP : ∀ before' row' after', before ++ row :: after = before' ++ row' :: after' →
      row'.isCode → before.length ≤ before'.length →
      ∀ column, P (rules.stateIn before' row' column)) (column : Nat) :
    Run P (before.length, rules.stateIn before row column)
      (rules.finished (before ++ row :: after)) := by
  have hline := hP before row after rfl hrow (Nat.le_refl _)
  have hrest : Run P (rules.reached (before ++ [row]))
      (rules.reached (before ++ row :: after)) := by
    rw [List.append_cons before row after]
    refine run_reached_append fun between row' after' hsplit hrow' => ?_
    refine hP (before ++ [row] ++ between) row' after' ?_ hrow' ?_
    · rw [hsplit, List.append_cons, List.append_assoc (before ++ [row])]
    · rw [List.length_append, List.length_append]
      omega
  have hfinish : Run P (rules.reached (before ++ row :: after))
      (rules.finished (before ++ row :: after)) := .of_calm (calm_finish ..)
  exact ((run_reached_concat hrow hline column).trans hrest).trans hfinish

theorem span_addReceivers (receivers : List (List Char)) (classes : List ClassFacts) (i : Nat) :
    (receivers.foldl addReceiver classes)[i]?.map ClassFacts.span =
      classes[i]?.map ClassFacts.span := by
  induction receivers generalizing classes with
  | nil => rfl
  | cons receiver others ih =>
    rw [List.foldl_cons, ih]
    unfold addReceiver
    split
    · apply map_getElem?_modify
      exact fun _ => rfl
    · rfl

/-- The receivers of methods change no recorded lines. -/
theorem span?_scanBlocks (rules : Rules) (rows : List Row) :
    (rules.scanBlocks rows).span? = (rules.finished rows).2.span? :=
  span?_congr (fun _ => rfl) (span_addReceivers _ _)

/-! ## Nesting -/

/-- Behind the first `line` rows a block of `inner` is open while that of `outer` is not. -/
def OpensOutside (rules : Rules) (rows : List Row) (line : Nat) (inner outer : FrameKind) : Prop :=
  ∃ before row after column, rows = before ++ row :: after ∧ row.isCode ∧ line ≤ before.length ∧
    Outside inner outer (rules.stateIn before row column)

theorem dated_stateAt (rules : Rules) (before : List Row) (row : Row) :
    Dated before.length (rules.stateAt before row) := by
  have hbefore : Run (fun _ => True) (rules.reached []) (rules.reached before) :=
    run_reached_append fun _ _ _ _ _ _ => trivial
  have hrun : Run (fun _ => True) (rules.reached [])
      (before.length, rules.stateAt before row) := hbefore.trans (run_stateAt before row)
  exact hrun.keeps (fun _ _ => Dated.advance) dated_empty

/-- From a place on a row to a place on a later row. -/
theorem run_between {before before' after after' : List Row} {row row' : Row}
    (hrows : before ++ row :: after = before' ++ row' :: after') (hrow : row.isCode)
    (hle : before.length ≤ before'.length) (hP : ∀ s, P s) (column : Nat) :
    Run P (before.length, (rules.stateAt before row).register rules before.length row)
      (before'.length, rules.stateIn before' row' column) := by
  have hprefix : before <+: before' := by
    refine List.prefix_of_prefix_length_le (List.prefix_append before (row :: after)) ?_ hle
    rw [hrows]
    exact List.prefix_append before' (row' :: after')
  obtain ⟨between, rfl⟩ := hprefix
  rw [List.append_assoc] at hrows
  have hrest := List.append_cancel_left hrows
  cases between with
  | nil =>
    obtain ⟨rfl, -⟩ := List.cons.inj hrest
    rw [List.append_nil]
    exact run_followTo _ _ _ (fun _ => hP _) column
  | cons first between =>
    obtain ⟨rfl, -⟩ := List.cons.inj hrest
    have hline : Run P
        (before.length, (rules.stateAt before row).register rules before.length row)
        (rules.reached (before ++ [row])) :=
      (run_followTo _ _ _ (fun _ => hP _) 0).trans (run_reached_concat hrow (fun _ => hP _) 0)
    have hnext : Run P (rules.reached (before ++ [row]))
        (rules.reached (before ++ row :: between)) := by
      rw [List.append_cons before row between]
      exact run_reached_append fun _ _ _ _ _ _ => hP _
    exact (hline.trans hnext).trans (run_stateIn (fun _ => hP _) column)

/-- What is declared inside an open block is within it. -/
theorem within_register {before : List Row} {row : Row} {declaration : Declaration}
    (hdeclaration : rules.declaration? row.code = some declaration) {outer : FrameKind}
    (houter : outer.isDeclared) (hopen : outer ∈ (rules.stateAt before row).openKinds) :
    (rules.stateAt before row).kindFor declaration ≠ outer ∧
      Within ((rules.stateAt before row).kindFor declaration) outer before.length
        ((rules.stateAt before row).register rules before.length row) := by
  have hdated := rules.dated_stateAt before row
  generalize rules.stateAt before row = s at hopen hdated ⊢
  have hregister : s.register rules before.length row = s.declare before.length declaration := by
    rw [register, hdeclaration]
  have hrecorded := hdated.recorded outer houter (.inl hopen)
  have hne : s.kindFor declaration ≠ outer := by
    rintro rfl
    rw [span?_kindFor] at hrecorded
    cases hrecorded
  have hclosed : s.kindFor declaration ∉ s.openKinds := by
    intro hinner
    have hinner := hdated.recorded _ (s.isDeclared_kindFor declaration) (.inl hinner)
    rw [span?_kindFor] at hinner
    cases hinner
  have hkinds : (s.declare before.length declaration).openKinds = s.openKinds := by
    rw [openKinds, stack_declare]
    rfl
  refine ⟨hne, ?_⟩
  rw [hregister]
  exact {
    toDated := hregister ▸ hdated.calm (calm_register rules s before.length row)
    inner_isSome := by rw [span?_declare, if_pos rfl]; rfl
    outer_isSome := by rw [span?_declare, if_neg hne.symm]; exact hrecorded
    settled := by
      rintro ⟨line, hline⟩
      rw [pending_declare] at hline
      exact hne (congrArg Prod.fst (Option.some.inj hline))
    order := by
      rw [hkinds]
      exact fun horder => hclosed (horder.subset (by simp))
    ended := by
      rw [hkinds]
      exact fun hnone => absurd hopen hnone }

/-- At the end of the file, the declaration has ended no later if its block never opens outside. -/
theorem endsBy_of_not_opensOutside {before after : List Row} {row : Row} (hrow : row.isCode)
    {inner outer : FrameKind} (hne : inner ≠ outer) (houter : outer.isDeclared)
    (hwithin : Within inner outer before.length
      ((rules.stateAt before row).register rules before.length row))
    (hinside : ¬ rules.OpensOutside (before ++ row :: after) before.length inner outer) :
    (rules.finished (before ++ row :: after)).2.EndsBy inner outer := by
  have hmoments : ∀ before' row' after',
      before ++ row :: after = before' ++ row' :: after' → row'.isCode →
      before.length ≤ before'.length →
      ∀ column, ¬ Outside inner outer (rules.stateIn before' row' column) :=
    fun before' row' after' hrows hrow' hle column hmoment =>
      hinside ⟨before', row', after', column, hrows, hrow', hle, hmoment⟩
  have hrun : Run (fun t => ¬ Outside inner outer t)
      (before.length, (rules.stateAt before row).register rules before.length row)
      (rules.finished (before ++ row :: after)) :=
    (run_followTo _ _ _ (hmoments before row after rfl hrow (Nat.le_refl _)) 0).trans
      (run_finished hrow hmoments 0)
  have hend := hrun.keeps (fun _ _ => Within.advance hne houter) hwithin
  refine (hend.ended ?_).2
  rw [openKinds_finished]
  exact List.not_mem_nil

/-- At the end of the file, the declaration has ended no earlier if its block opened outside. -/
theorem endsBy_of_opensOutside {before after : List Row} {row : Row} (hrow : row.isCode)
    {inner outer : FrameKind} (hne : inner ≠ outer) (houter : outer.isDeclared)
    (hboth : Both inner outer before.length
      ((rules.stateAt before row).register rules before.length row))
    (houtside : rules.OpensOutside (before ++ row :: after) before.length inner outer) :
    (rules.finished (before ++ row :: after)).2.EndsBy outer inner := by
  obtain ⟨before', row', after', column, hrows, hrow', hle, hopen, hclosed⟩ := houtside
  have hthere : Run (fun _ => True)
      (before.length, (rules.stateAt before row).register rules before.length row)
      (before'.length, rules.stateIn before' row' column) :=
    run_between hrows hrow hle (fun _ => trivial) column
  have hrest : Run (fun _ => True) (before'.length, rules.stateIn before' row' column)
      (rules.finished (before ++ row :: after)) := by
    rw [hrows]
    exact run_finished hrow' (fun _ _ _ _ _ _ _ => trivial) column
  have hmoment : Outlives inner outer before'.length (rules.stateIn before' row' column) :=
    { hthere.keeps (fun _ _ => Both.advance) hboth with closed := hclosed, ended := .inl hopen }
  have hend := hrest.keeps (fun _ _ => Outlives.advance hne houter) hmoment
  refine hend.ended.resolve_left ?_
  rw [openKinds_finished]
  exact List.not_mem_nil

theorem both_finished {before after : List Row} {row : Row} (hrow : row.isCode)
    {inner outer : FrameKind}
    (hboth : Both inner outer before.length
      ((rules.stateAt before row).register rules before.length row)) :
    Both inner outer (rules.finished (before ++ row :: after)).1
      (rules.finished (before ++ row :: after)).2 := by
  have hrun : Run (fun _ => True)
      (before.length, (rules.stateAt before row).register rules before.length row)
      (rules.finished (before ++ row :: after)) :=
    (run_followTo _ _ _ (fun _ => trivial) 0).trans
      (run_finished hrow (fun _ _ _ _ _ _ _ => trivial) 0)
  exact hrun.keeps (fun _ _ => Both.advance) hboth

/-- A function or class that is declared inside an open block of another one ends no later than
that one exactly if its own block does not open after the outer one was closed, or if both end on
the same line. -/
theorem scanBlocks_nested_iff (rules : Rules) {before after : List Row} {row : Row}
    (hrow : row.isCode) {declaration : Declaration}
    (hdeclaration : rules.declaration? row.code = some declaration) {outer : FrameKind}
    (houter : outer.isDeclared) (hopen : outer ∈ (rules.stateAt before row).openKinds) :
    let inner := (rules.stateAt before row).kindFor declaration
    ∃ i o, (rules.scanBlocks (before ++ row :: after)).span? inner = some i ∧
      (rules.scanBlocks (before ++ row :: after)).span? outer = some o ∧
      (i.last ≤ o.last ↔
        ¬ rules.OpensOutside (before ++ row :: after) before.length inner outer ∨
          i.last = o.last) := by
  intro inner
  obtain ⟨hne, hwithin⟩ := within_register hdeclaration houter hopen
  have hend : Both inner outer _ (rules.finished (before ++ row :: after)).2 :=
    both_finished hrow hwithin.toBoth
  obtain ⟨i, hi⟩ := Option.isSome_iff_exists.1 hend.inner_isSome
  obtain ⟨o, ho⟩ := Option.isSome_iff_exists.1 hend.outer_isSome
  rw [span?_scanBlocks]
  refine ⟨i, o, hi, ho, ?_⟩
  by_cases houtside : rules.OpensOutside (before ++ row :: after) before.length inner outer
  · have hlast : o.last ≤ i.last :=
      endsBy_of_opensOutside hrow hne houter hwithin.toBoth houtside o i ho hi
    constructor
    · exact fun hle => .inr (Nat.le_antisymm hle hlast)
    · rintro (hinside | hsame)
      · exact absurd houtside hinside
      · exact hsame.le
  · have hlast : i.last ≤ o.last :=
      endsBy_of_not_opensOutside hrow hne houter hwithin houtside i o hi ho
    exact iff_of_true hlast (.inl houtside)

/-- A method without a body, and a statement with a block behind its protocol. -/
theorem scanBlocks_nested_one_line_method :
    let code := "    func f()".toList
    let row : Row := ⟨code, .code, code, []⟩
    let before := classify swift.comments "protocol P \x7b".toList
    let after := classify swift.comments "\x7d\nif x \x7b\n    y()\n\x7d\n".toList
    let inner := (swift.stateAt before row).kindFor (.function "f".toList 0 none)
    (row.isCode ∧ swift.declaration? row.code = some (.function "f".toList 0 none) ∧
      (FrameKind.classLike 0).isDeclared ∧
      FrameKind.classLike 0 ∈ (swift.stateAt before row).openKinds) ∧
    ∃ i o, (swift.scanBlocks (before ++ row :: after)).span? inner = some i ∧
      (swift.scanBlocks (before ++ row :: after)).span? (.classLike 0) = some o ∧
      (i.last ≤ o.last ↔
        ¬ swift.OpensOutside (before ++ row :: after) before.length inner (.classLike 0) ∨
          i.last = o.last) := by
  intro code row before after inner
  have hdeclaration : swift.declaration? row.code = some (.function "f".toList 0 none) := by
    decide +kernel
  have hopen : FrameKind.classLike 0 ∈ (swift.stateAt before row).openKinds := by
    decide +kernel
  exact ⟨⟨rfl, hdeclaration, rfl, hopen⟩, scanBlocks_nested_iff swift rfl hdeclaration rfl hopen⟩

/-- The method takes the block of that statement: its protocol ends on line 3, the method on line 6.
-/
theorem one_line_method_outlives_class :
    let rows := classify swift.comments
      "protocol P \x7b\n    func f()\n\x7d\nif x \x7b\n    y()\n\x7d\n".toList
    let before := rows.take 1
    (∃ row ∈ rows[1]?, swift.declaration? row.code = some (.function "f".toList 0 none) ∧
      (swift.stateAt before row).openKinds = [.classLike 0]) ∧
    (swift.scanBlocks rows).span? (.function 0) = some ⟨2, 5⟩ ∧
    (swift.scanBlocks rows).span? (.classLike 0) = some ⟨1, 3⟩ := by
  decide +kernel

end Rules

end Affinity
