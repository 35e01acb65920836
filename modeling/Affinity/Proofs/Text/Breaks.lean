import Affinity.Proofs.Text.Places

/-!
# Texts put together at line breaks

A text whose last line is closed by a break can be continued without touching its lines.

* `lines_append` — the lines of such a text and of what follows, one after the other.
* `lines_closed` — lines written one after the other, each with a break, are read back.
* `mem_of_mem_lines` — a line holds characters of the text, and no line feed.
-/

namespace Affinity

/-- The text is empty or ends with a line break. -/
def EndsWithBreak (text : List Char) : Prop :=
  text = [] ∨ text.getLast? = some '\n'

instance : DecidablePred EndsWithBreak := fun _ => inferInstanceAs (Decidable (_ ∨ _))

theorem EndsWithBreak.closed (line : List Char) : EndsWithBreak (line ++ ['\n']) :=
  .inr List.getLast?_concat

theorem EndsWithBreak.tail {c : Char} {text : List Char} (h : EndsWithBreak (c :: text))
    (hne : text ≠ []) : EndsWithBreak text := by
  obtain ⟨d, rest, rfl⟩ := List.exists_cons_of_ne_nil hne
  rcases h with h | h
  · cases h
  · exact .inr (by rwa [List.getLast?_cons_cons] at h)

theorem EndsWithBreak.eq_lineFeed {c : Char} (h : EndsWithBreak [c]) : c = '\n' := by
  rcases h with h | h
  · cases h
  · exact Option.some.inj h

/-! ## Lines of texts put together -/

theorem addToFirst_append {c : Char} {rows : List (List Char)} (hne : rows ≠ [])
    (others : List (List Char)) : addToFirst c (rows ++ others) = addToFirst c rows ++ others := by
  cases rows with
  | nil => exact absurd rfl hne
  | cons first rest => rfl

theorem lines_ne_nil {text : List Char} (hne : text ≠ []) : lines text ≠ [] := by
  induction text with
  | nil => exact absurd rfl hne
  | cons c rest ih =>
    rw [lines_cons]
    split
    · exact List.cons_ne_nil _ _
    · split
      · next hbreak =>
        apply ih
        rintro rfl
        cases hbreak.2
      · cases lines rest <;> exact List.cons_ne_nil _ _

/-- What follows a line break begins a line of its own. -/
theorem lines_append {a : List Char} (ha : EndsWithBreak a) (b : List Char) :
    lines (a ++ b) = lines a ++ lines b := by
  induction a with
  | nil => rfl
  | cons c rest ih =>
    rw [List.cons_append, lines_cons, lines_cons]
    cases rest with
    | nil =>
      rw [if_pos ha.eq_lineFeed, if_pos ha.eq_lineFeed]
      rfl
    | cons d others =>
      have hrest := ih (ha.tail (List.cons_ne_nil d others))
      have hhead : (d :: others ++ b).head? = (d :: others).head? := rfl
      rw [hrest, hhead, addToFirst_append (lines_ne_nil (List.cons_ne_nil d others))]
      split
      · rfl
      · split <;> rfl

/-! ## What stands on lines -/

theorem mem_addToFirst {c : Char} {rows : List (List Char)} {line : List Char}
    (h : line ∈ addToFirst c rows) : line ∈ rows ∨ ∃ first, (first = [] ∨ first ∈ rows) ∧
      line = c :: first := by
  cases rows with
  | nil => exact .inr ⟨[], .inl rfl, List.mem_singleton.1 h⟩
  | cons first others =>
    rcases List.mem_cons.1 h with rfl | hmem
    · exact .inr ⟨first, .inr List.mem_cons_self, rfl⟩
    · exact .inl (List.mem_cons_of_mem first hmem)

/-- A line holds characters of the text, and no line feed. -/
theorem mem_of_mem_lines {text line : List Char} (hline : line ∈ lines text) {c : Char}
    (hc : c ∈ line) : c ∈ text ∧ c ≠ '\n' := by
  induction text generalizing line with
  | nil => cases hline
  | cons d rest ih =>
    have hrest {line : List Char} (hmem : line ∈ lines rest) (hc : c ∈ line) :
        c ∈ d :: rest ∧ c ≠ '\n' :=
      ⟨List.mem_cons_of_mem d (ih hmem hc).1, (ih hmem hc).2⟩
    rw [lines_cons] at hline
    split at hline
    · rcases List.mem_cons.1 hline with rfl | hmem
      · cases hc
      · exact hrest hmem hc
    · next hd =>
      split at hline
      · exact hrest hline hc
      · rcases mem_addToFirst hline with hmem | ⟨first, hfirst, rfl⟩
        · exact hrest hmem hc
        · rcases List.mem_cons.1 hc with rfl | hc
          · exact ⟨List.mem_cons_self, hd⟩
          · rcases hfirst with rfl | hmem
            · cases hc
            · exact hrest hmem hc

/-! ## Lines written one after the other -/

/-- A line without line breaks, closed by one. -/
theorem lines_singleton {line : List Char} (hfeed : '\n' ∉ line) (hreturn : '\r' ∉ line) :
    lines (line ++ ['\n']) = [line] := by
  induction line with
  | nil => rfl
  | cons c rest ih =>
    rw [List.mem_cons, not_or] at hfeed hreturn
    rw [List.cons_append, lines_cons, if_neg (Ne.symm hfeed.1),
      if_neg (fun h => hreturn.1 h.1.symm), ih hfeed.2 hreturn.2]
    rfl

/-- Lines written one after the other, each with a line break, are read back. -/
theorem lines_closed {rows : List (List Char)}
    (hrows : ∀ line ∈ rows, '\n' ∉ line ∧ '\r' ∉ line) :
    lines (rows.flatMap (· ++ ['\n'])) = rows := by
  induction rows with
  | nil => rfl
  | cons line others ih =>
    obtain ⟨hfeed, hreturn⟩ := hrows line List.mem_cons_self
    rw [List.flatMap_cons, lines_append (.closed line), lines_singleton hfeed hreturn,
      ih fun row hrow => hrows row (List.mem_cons_of_mem line hrow)]
    rfl

end Affinity
