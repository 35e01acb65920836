import Affinity.Text.Lines

/-!
# Pieces of texts put together

* `pieces_eq_splitOnP` — the pieces of a text are what the library's `splitOnP` gives.
* `exists_mem_pieces` — a character that separates nothing stands in one of the pieces.
* `pieces_append` — of two texts one after the other, the last piece of the first and the first
  piece of the second become one.
-/

namespace Affinity

variable {p : Char → Bool} {s : List Char} {c : Char}

/-- The pieces of a text are what the library splits it into. -/
theorem pieces_eq_splitOnP (p : Char → Bool) (s : List Char) : pieces p s = s.splitOnP p := by
  induction s with
  | nil => rfl
  | cons c rest ih =>
    rw [List.splitOnP_cons_eq_if_modifyHead, ← ih, pieces, List.foldr_cons, ← pieces]
    split
    · rfl
    · cases hpieces : pieces p rest with
      | nil => exact absurd (ih ▸ hpieces) (List.splitOnP_ne_nil p rest)
      | cons first others => rfl

theorem pieces_ne_nil (p : Char → Bool) (s : List Char) : pieces p s ≠ [] := by
  rw [pieces_eq_splitOnP]
  exact List.splitOnP_ne_nil p s

theorem pieces_cons (p : Char → Bool) (c : Char) (s : List Char) :
    pieces p (c :: s) =
      if p c = true then [] :: pieces p s else (pieces p s).modifyHead (List.cons c) := by
  rw [pieces_eq_splitOnP, pieces_eq_splitOnP, List.splitOnP_cons_eq_if_modifyHead]

theorem pieces_of_forall (h : ∀ c ∈ s, p c = false) : pieces p s = [s] := by
  rw [pieces_eq_splitOnP, List.splitOnP_eq_singleton h]

/-- A separator ends the pieces of what precedes it. -/
theorem pieces_append_cons (hc : p c = true) (before behind : List Char) :
    pieces p (before ++ c :: behind) = pieces p before ++ pieces p behind := by
  rw [pieces_eq_splitOnP, pieces_eq_splitOnP, pieces_eq_splitOnP, List.splitOnP_append_cons _ _ hc]

/-- A character that separates nothing stands in one of the pieces. -/
theorem exists_mem_pieces (hmem : c ∈ s) (hc : p c = false) : ∃ piece ∈ pieces p s, c ∈ piece := by
  induction s with
  | nil => cases hmem
  | cons d rest ih =>
    rw [pieces_cons]
    rcases List.mem_cons.1 hmem with rfl | hmem
    · rw [if_neg (by simp [hc])]
      obtain ⟨first, others, hpieces⟩ := List.exists_cons_of_ne_nil (pieces_ne_nil p rest)
      rw [hpieces]
      exact ⟨c :: first, List.mem_cons_self, List.mem_cons_self⟩
    · obtain ⟨piece, hpiece, hin⟩ := ih hmem
      split
      · exact ⟨piece, List.mem_cons_of_mem _ hpiece, hin⟩
      · obtain ⟨first, others, hpieces⟩ := List.exists_cons_of_ne_nil (pieces_ne_nil p rest)
        rw [hpieces] at hpiece ⊢
        rcases List.mem_cons.1 hpiece with rfl | hothers
        · exact ⟨d :: piece, List.mem_cons_self, List.mem_cons_of_mem _ hin⟩
        · exact ⟨piece, List.mem_cons_of_mem _ hothers, hin⟩

/-! ## Texts one after the other -/

/-- Two lists one after the other, of which the last entry of the first and the first entry of the
second become one. -/
def abut {α : Type} : List (List α) → List (List α) → List (List α)
  | [], others => others
  | [last], others => others.modifyHead (last ++ ·)
  | first :: second :: rest, others => first :: abut (second :: rest) others

section Abut

variable {α : Type}

theorem abut_cons {entries : List (List α)} (hne : entries ≠ []) (first : List α)
    (others : List (List α)) : abut (first :: entries) others = first :: abut entries others := by
  obtain ⟨second, rest, rfl⟩ := List.exists_cons_of_ne_nil hne
  rfl

theorem abut_modifyHead {entries : List (List α)} (hne : entries ≠ []) (a : α)
    (others : List (List α)) :
    abut (entries.modifyHead (List.cons a)) others =
      (abut entries others).modifyHead (List.cons a) := by
  match entries with
  | [last] => cases others <;> rfl
  | first :: second :: rest => rfl

theorem abut_ne_nil {entries others : List (List α)} (hentries : entries ≠ [])
    (hothers : others ≠ []) : abut entries others ≠ [] := by
  match entries with
  | [last] => simpa [abut] using hothers
  | first :: second :: rest => exact List.cons_ne_nil _ _

theorem flatten_modifyHead_append {entries : List (List α)} (hne : entries ≠ []) (start : List α) :
    (entries.modifyHead (start ++ ·)).flatten = start ++ entries.flatten := by
  obtain ⟨first, rest, rfl⟩ := List.exists_cons_of_ne_nil hne
  simp

theorem flatten_abut (entries : List (List α)) {others : List (List α)} (hne : others ≠ []) :
    (abut entries others).flatten = entries.flatten ++ others.flatten := by
  induction entries with
  | nil => rfl
  | cons first rest ih =>
    cases rest with
    | nil => rw [abut, flatten_modifyHead_append hne, List.flatten_singleton]
    | cons second rest =>
      rw [abut_cons (List.cons_ne_nil _ _), List.flatten_cons, ih]
      simp

/-- What each entry makes up is not changed by where the entries meet. -/
theorem map_flatten_abut (entries others : List (List (List α))) :
    (abut entries others).map List.flatten =
      abut (entries.map List.flatten) (others.map List.flatten) := by
  induction entries with
  | nil => rfl
  | cons first rest ih =>
    cases rest with
    | nil => cases others <;> simp [abut]
    | cons second rest =>
      rw [abut_cons (List.cons_ne_nil _ _), List.map_cons, ih]
      rfl

end Abut

/-- **The pieces of two texts** one after the other. -/
theorem pieces_append (p : Char → Bool) (before behind : List Char) :
    pieces p (before ++ behind) = abut (pieces p before) (pieces p behind) := by
  induction before with
  | nil =>
    obtain ⟨first, others, hpieces⟩ := List.exists_cons_of_ne_nil (pieces_ne_nil p behind)
    rw [List.nil_append, hpieces]
    rfl
  | cons c rest ih =>
    have hne := pieces_ne_nil p rest
    rw [List.cons_append, pieces_cons, pieces_cons, ih]
    split
    · rw [abut_cons hne]
    · rw [abut_modifyHead hne]

end Affinity
