import Mathlib.Data.List.Forall2
import Mathlib.Data.List.TakeWhile
import Affinity.Text.Lines

/-!
# Rows and columns of a text

A position of a text has a row and a column: the number of line feeds before it and the number of
characters behind the last of them.

* `rowOf`, `columnOf` — where a position is.
* `lines_cons` — the lines of a text, from the lines of its rest.
* `forall₂_lines` — texts that are alike character by character are alike line by line.
* `exists_position` — what stands in a line stands in the text, at a position of that place.
-/

namespace Affinity

/-- The row of a position. -/
def rowOf (text : List Char) (position : Nat) : Nat :=
  (text.take position).count '\n'

/-- The column of a position. -/
def columnOf (text : List Char) (position : Nat) : Nat :=
  ((text.take position).reverse.takeWhile (· != '\n')).length

/-- What stands in a row and a column. -/
def entry? {α : Type} (rows : List (List α)) (row column : Nat) : Option α :=
  rows[row]?.bind (·[column]?)

/-! ## One more character in front -/

theorem rowOf_cons_succ (c : Char) (text : List Char) (position : Nat) :
    rowOf (c :: text) (position + 1) = rowOf text position + if c = '\n' then 1 else 0 := by
  rw [rowOf, List.take_succ_cons, List.count_cons]
  simp only [beq_iff_eq]
  rfl

/-- In the first row every further character counts; a later row does not move. -/
theorem columnOf_cons_succ (c : Char) (text : List Char) (position : Nat) :
    columnOf (c :: text) (position + 1) =
      columnOf text position + if rowOf text position = 0 ∧ c ≠ '\n' then 1 else 0 := by
  rw [columnOf, List.take_succ_cons, List.reverse_cons, List.takeWhile_append]
  have hrow : rowOf text position = 0 ↔
      ((text.take position).reverse.takeWhile (· != '\n')).length =
        (text.take position).reverse.length := by
    rw [rowOf, List.count_eq_zero, ← List.mem_reverse]
    constructor
    · intro hmem
      rw [List.takeWhile_eq_self_iff.2]
      intro d hd
      exact bne_iff_ne.2 fun heq => hmem (heq ▸ hd)
    · intro hlength hmem
      have hself := List.takeWhile_eq_self_iff.1
        ((List.takeWhile_prefix _).eq_of_length hlength) _ hmem
      simp at hself
  by_cases hzero : rowOf text position = 0
  · rw [if_pos (hrow.1 hzero)]
    have hlength := hrow.1 hzero
    by_cases hc : c = '\n'
    · simp [columnOf, hc, hlength]
    · simp [columnOf, hc, hlength, hzero]
  · rw [if_neg (mt hrow.2 hzero), if_neg (fun h => hzero h.1)]
    rfl

/-- The position stands in that row and column. -/
structure PlacedAt (text : List Char) (position row column : Nat) : Prop where
  row : rowOf text position = row
  column : columnOf text position = column

section Placed

variable {text : List Char} {c : Char} {position row column : Nat}

theorem PlacedAt.behindLineFeed (h : PlacedAt text position row column) :
    PlacedAt ('\n' :: text) (position + 1) (row + 1) column where
  row := by rw [rowOf_cons_succ, h.row, if_pos rfl]
  column := by rw [columnOf_cons_succ, h.column, if_neg (fun hc => hc.2 rfl), Nat.add_zero]

theorem PlacedAt.firstRow (h : PlacedAt text position 0 column) (hc : c ≠ '\n') :
    PlacedAt (c :: text) (position + 1) 0 (column + 1) where
  row := by rw [rowOf_cons_succ, h.row, if_neg hc]
  column := by rw [columnOf_cons_succ, h.column, if_pos ⟨h.row, hc⟩]

theorem PlacedAt.laterRow (h : PlacedAt text position (row + 1) column) (hc : c ≠ '\n') :
    PlacedAt (c :: text) (position + 1) (row + 1) column where
  row := by rw [rowOf_cons_succ, h.row, if_neg hc]
  column := by
    have hrow : rowOf text position ≠ 0 := h.row ▸ Nat.succ_ne_zero row
    rw [columnOf_cons_succ, h.column, if_neg (fun hzero => hrow hzero.1), Nat.add_zero]

end Placed

/-- Puts a character in front of the first row. -/
def addToFirst (c : Char) : List (List Char) → List (List Char)
  | [] => [[c]]
  | first :: others => (c :: first) :: others

theorem startsWithBreak_foldr (text : List Char) :
    (text.foldr addToLines (false, [])).1 = (text.head? == some '\n') := by
  cases text with
  | nil => rfl
  | cons c rest =>
    rw [List.foldr_cons]
    generalize rest.foldr addToLines (false, []) = folded
    obtain ⟨beforeBreak, rows⟩ := folded
    by_cases hc : c = '\n'
    · simp [addToLines, hc]
    · unfold addToLines
      dsimp only
      rw [if_neg hc]
      split
      · simp [hc]
      · split <;> simp [hc]

/-- A line feed opens a line, a carriage return before it belongs to the break, and any other
character goes in front of the first line. -/
theorem lines_cons (c : Char) (text : List Char) :
    lines (c :: text) =
      if c = '\n' then [] :: lines text
      else if c = '\r' ∧ text.head? = some '\n' then lines text
      else addToFirst c (lines text) := by
  have hbreak := startsWithBreak_foldr text
  unfold lines
  rw [List.foldr_cons]
  generalize text.foldr addToLines (false, []) = folded at hbreak ⊢
  obtain ⟨beforeBreak, rows⟩ := folded
  dsimp only at hbreak ⊢
  unfold addToLines
  dsimp only
  rw [hbreak]
  simp only [Bool.and_eq_true, decide_eq_true_eq, beq_iff_eq]
  split
  · rfl
  · split
    · rfl
    · cases rows <;> rfl

section Entries

variable (c : Char) (rows : List (List Char)) (row column : Nat)

theorem entry?_addToFirst_zero_zero : entry? (addToFirst c rows) 0 0 = some c := by
  cases rows <;> rfl

theorem entry?_addToFirst_zero_succ :
    entry? (addToFirst c rows) 0 (column + 1) = entry? rows 0 column := by
  cases rows <;> rfl

theorem entry?_addToFirst_succ :
    entry? (addToFirst c rows) (row + 1) column = entry? rows (row + 1) column := by
  cases rows <;> rfl

end Entries

/-! ## Texts that are alike -/

/-- Related characters break lines alike. -/
def KeepsBreaks (R : Char → Char → Prop) : Prop :=
  ∀ c d, R c d → (c = '\n' ↔ d = '\n') ∧ (c = '\r' ↔ d = '\r')

variable {R : Char → Char → Prop} {a b : List Char}

theorem rowOf_congr (hR : KeepsBreaks R) (h : List.Forall₂ R a b) (position : Nat) :
    rowOf a position = rowOf b position := by
  induction h generalizing position with
  | nil => rfl
  | cons hcd _ ih =>
    cases position with
    | zero => rfl
    | succ position => simp only [rowOf_cons_succ, ih, (hR _ _ hcd).1]

theorem columnOf_congr (hR : KeepsBreaks R) (h : List.Forall₂ R a b) (position : Nat) :
    columnOf a position = columnOf b position := by
  induction h generalizing position with
  | nil => rfl
  | cons hcd hrest ih =>
    cases position with
    | zero => rfl
    | succ position =>
      simp only [columnOf_cons_succ, ih, rowOf_congr hR hrest, ne_eq, (hR _ _ hcd).1]

theorem head?_eq_lineFeed_congr (hR : KeepsBreaks R) (h : List.Forall₂ R a b) :
    a.head? = some '\n' ↔ b.head? = some '\n' := by
  cases h with
  | nil => rfl
  | cons hcd _ => simp [(hR _ _ hcd).1]

theorem forall₂_addToFirst {c d : Char} (hcd : R c d) {rows others : List (List Char)}
    (h : List.Forall₂ (List.Forall₂ R) rows others) :
    List.Forall₂ (List.Forall₂ R) (addToFirst c rows) (addToFirst d others) := by
  cases h with
  | nil => exact .cons (.cons hcd .nil) .nil
  | cons hfirst hrows => exact .cons (.cons hcd hfirst) hrows

/-- Texts that are alike have lines that are alike. -/
theorem forall₂_lines (hR : KeepsBreaks R) (h : List.Forall₂ R a b) :
    List.Forall₂ (List.Forall₂ R) (lines a) (lines b) := by
  induction h with
  | nil => exact .nil
  | cons hcd hrest ih =>
    obtain ⟨hfeed, hreturn⟩ := hR _ _ hcd
    simp only [lines_cons, hfeed, hreturn, head?_eq_lineFeed_congr hR hrest]
    split
    · exact .cons .nil ih
    · split
      · exact ih
      · exact forall₂_addToFirst hcd ih

/-- What stands in a row and a column stands in the text, at a position of that place. In a text
that is alike, the same position and the same place belong together. -/
theorem exists_position (hR : KeepsBreaks R) (h : List.Forall₂ R a b) {row column : Nat} {x : Char}
    (hx : entry? (lines a) row column = some x) :
    ∃ position, a[position]? = some x ∧ b[position]? = entry? (lines b) row column ∧
      PlacedAt a position row column := by
  induction h generalizing row column with
  | nil => cases hx
  | @cons c d a b hcd hrest ih =>
    obtain ⟨hfeed, hreturn⟩ := hR _ _ hcd
    rw [lines_cons] at hx ⊢
    simp only [← hfeed, ← hreturn, ← head?_eq_lineFeed_congr hR hrest]
    by_cases hc : c = '\n'
    · subst hc
      rw [if_pos rfl] at hx ⊢
      cases row with
      | zero => cases hx
      | succ row =>
        obtain ⟨position, ha, hb, hplace⟩ := ih hx
        exact ⟨position + 1, ha, hb, hplace.behindLineFeed⟩
    rw [if_neg hc] at hx ⊢
    by_cases hbreak : c = '\r' ∧ a.head? = some '\n'
    · rw [if_pos hbreak] at hx ⊢
      obtain ⟨position, ha, hb, hplace⟩ := ih hx
      cases row with
      | zero =>
        -- the first row is the empty one in front of the break
        obtain ⟨rest, rfl⟩ := List.head?_eq_some_iff.1 hbreak.2
        rw [lines_cons, if_pos rfl] at hx
        cases hx
      | succ row => exact ⟨position + 1, ha, hb, hplace.laterRow hc⟩
    rw [if_neg hbreak] at hx ⊢
    cases row with
    | zero =>
      cases column with
      | zero =>
        rw [entry?_addToFirst_zero_zero] at hx ⊢
        exact ⟨0, hx, rfl, rfl, rfl⟩
      | succ column =>
        rw [entry?_addToFirst_zero_succ] at hx ⊢
        obtain ⟨position, ha, hb, hplace⟩ := ih hx
        exact ⟨position + 1, ha, hb, hplace.firstRow hc⟩
    | succ row =>
      rw [entry?_addToFirst_succ] at hx ⊢
      obtain ⟨position, ha, hb, hplace⟩ := ih hx
      exact ⟨position + 1, ha, hb, hplace.laterRow hc⟩

end Affinity
