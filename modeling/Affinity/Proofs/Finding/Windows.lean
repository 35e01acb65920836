import Mathlib.Data.Set.Card
import Mathlib.Order.Interval.Finset.Nat
import Affinity.Finding.Duplication
import Affinity.Proofs.Finding.Counting

/-!
# Windows and what they cover

A run of fingerprints begins at a place of a file if the file goes on with it there. The windows of
a file are its runs in the order of their places, and each look at them by the clone detector is
described here by the places it selects.

* `getElem?_windowsOf` — the window of a place is the run that begins there.
* `getD_countWindows`, `encard_recurring` — how often a window occurs, and how many windows do so
  at least twice.
* `mem_clones_iff`, `mem_copies_iff` — where the repeated windows of a file begin, and which of them
  occurred before.
* `encard_covered` — how many places are covered by windows that begin at given places.
-/

namespace Affinity

/-! ## The windows of a file -/

/-- The lines go on with the run from a place on. -/
def BeginsAt (size : Nat) (lines : List String) (start : Nat) (run : Window) : Prop :=
  run.length = size ∧ run <+: lines.drop start

theorem BeginsAt.add_le {size start : Nat} {lines : List String} {run : Window}
    (h : BeginsAt size lines start run) (hsize : 0 < size) : start + size ≤ lines.length := by
  obtain ⟨hlength, hprefix⟩ := h
  have hle := hprefix.length_le
  rw [List.length_drop] at hle
  omega

/-- **The windows of a file** are the runs that begin at its places. -/
theorem getElem?_windowsOf {size : Nat} (hsize : 0 < size) {lines : List String} {start : Nat}
    {run : Window} :
    (windowsOf size lines)[start]? = some run ↔ BeginsAt size lines start run := by
  induction lines generalizing start with
  | nil =>
    refine iff_of_false (by simp [windowsOf]) fun h => ?_
    have hle := h.add_le hsize
    rw [List.length_nil] at hle
    omega
  | cons line rest ih =>
    rw [windowsOf]
    split
    case isTrue hfits =>
      cases start with
      | zero =>
        rw [List.getElem?_cons_zero, Option.some.injEq, BeginsAt, List.drop_zero,
          List.prefix_iff_eq_take]
        constructor
        · rintro rfl
          exact ⟨hfits, by rw [hfits]⟩
        · rintro ⟨rfl, hrun⟩
          exact hrun.symm
      | succ start => exact ih
    case isFalse hshort =>
      refine iff_of_false (by simp) fun h => hshort ?_
      have hle := h.add_le hsize
      exact List.length_take_of_le (by omega)

theorem mem_windowsOf_iff {size : Nat} (hsize : 0 < size) {lines : List String} {run : Window} :
    run ∈ windowsOf size lines ↔ ∃ start, BeginsAt size lines start run := by
  rw [List.mem_iff_getElem?]
  exact exists_congr fun _ => getElem?_windowsOf hsize

theorem mem_zipIdx_windowsOf_iff {size : Nat} (hsize : 0 < size) {lines : List String}
    {run : Window} {start : Nat} :
    (run, start) ∈ (windowsOf size lines).zipIdx ↔ BeginsAt size lines start run := by
  rw [List.mem_zipIdx_iff_getElem?, getElem?_windowsOf hsize]

/-! ## How often windows occur -/

theorem getD_foldl_insert (windows : List Window) (counts : Std.HashMap Window Nat) (w : Window) :
    (windows.foldl (fun counts w => counts.insert w (counts.getD w 0 + 1)) counts).getD w 0 =
      counts.getD w 0 + windows.count w := by
  induction windows generalizing counts with
  | nil => rfl
  | cons first rest ih =>
    rw [List.foldl_cons, ih, Std.HashMap.getD_insert, List.count_cons]
    by_cases hfirst : first = w
    · subst hfirst
      simp only [beq_self_eq_true, if_true]
      omega
    · simp [hfirst]

/-- A window is counted as often as it occurs. -/
theorem getD_countWindows (windows : List Window) (w : Window) :
    (countWindows windows).getD w 0 = windows.count w := by
  rw [countWindows, getD_foldl_insert, Std.HashMap.getD_empty, Nat.zero_add]

/-- Every window has a count. -/
theorem mem_countWindows_of_mem {windows : List Window} {w : Window} (hw : w ∈ windows) :
    w ∈ countWindows windows := by
  by_contra hnot
  have hcount := getD_countWindows windows w
  rw [Std.HashMap.getD_eq_fallback hnot] at hcount
  exact absurd hcount.symm (List.count_pos_iff.2 hw).ne'

theorem mem_toList_countWindows_iff {windows : List Window} {w : Window} {n : Nat} (hn : 0 < n) :
    (w, n) ∈ (countWindows windows).toList ↔ windows.count w = n := by
  rw [Std.HashMap.mem_toList_iff_getElem?_eq_some, ← getD_countWindows,
    Std.HashMap.getD_eq_getD_getElem?]
  cases (countWindows windows)[w]? with
  | none => simp [hn.ne]
  | some m => simp

/-- How many different windows occur at least twice. -/
theorem encard_recurring (windows : List Window) :
    {w | 2 ≤ windows.count w}.encard =
      ((countWindows windows).toList.countP fun (_, n) => 2 ≤ n : ℕ) := by
  have hnodup : (((countWindows windows).toList.filter fun (_, n) => 2 ≤ n).map (·.1)).Nodup := by
    refine List.pairwise_map.2 ((Std.HashMap.distinct_keys_toList.filter _).imp ?_)
    exact fun {a b} h => by simpa using h
  have hset : {w | 2 ≤ windows.count w} =
      ↑(((countWindows windows).toList.filter fun (_, n) => 2 ≤ n).map (·.1)).toFinset := by
    ext w
    simp only [Set.mem_ofPred_eq, List.coe_toFinset, List.mem_map, List.mem_filter,
      decide_eq_true_iff, Prod.exists, exists_and_right, exists_eq_right]
    constructor
    · exact fun h => ⟨_, (mem_toList_countWindows_iff (by omega)).2 rfl, h⟩
    · rintro ⟨n, hmem, hn⟩
      rwa [(mem_toList_countWindows_iff (by omega)).1 hmem]
  rw [hset, Set.encard_coe_eq_coe_finsetCard, List.toFinset_card_of_nodup hnodup, List.length_map,
    List.countP_eq_length_filter]

/-! ## Repeated windows of a file -/

/-- A window that occurs once is no repeated one. -/
theorem ne_of_repeated {counts : Std.HashMap Window Nat} {w first : Window}
    (hw : 2 ≤ counts.getD w 0) (hfirst : counts.getD first 0 < 2) : w ≠ first := by
  rintro rfl
  omega

theorem mem_seen_iff (counts : Std.HashMap Window Nat) (seen : Std.HashMap Window Unit)
    (entries : List (Window × Nat)) (w : Window) :
    w ∈ (occurrences counts seen entries).1 ↔
      w ∈ seen ∨ 2 ≤ counts.getD w 0 ∧ ∃ start, (w, start) ∈ entries := by
  induction entries generalizing seen with
  | nil => simp [occurrences]
  | cons entry rest ih =>
    obtain ⟨first, place⟩ := entry
    rw [occurrences]
    split
    case isTrue honce =>
      rw [ih]
      refine or_congr_right (and_congr_right fun hw => ?_)
      simp [ne_of_repeated hw honce]
    case isFalse htwice =>
      simp only [ih, Std.HashMap.mem_insert, beq_iff_eq, List.mem_cons, Prod.mk.injEq]
      constructor
      · rintro ((rfl | hseen) | ⟨hw, start, hrest⟩)
        · exact .inr ⟨by omega, place, .inl ⟨rfl, rfl⟩⟩
        · exact .inl hseen
        · exact .inr ⟨hw, start, .inr hrest⟩
      · rintro (hseen | ⟨hw, start, ⟨rfl, -⟩ | hrest⟩)
        · exact .inl (.inr hseen)
        · exact .inl (.inl rfl)
        · exact .inr ⟨hw, start, hrest⟩

/-- The clones of a file are its repeated windows, in the order of their places. -/
theorem map_start_occurrences (counts : Std.HashMap Window Nat) (seen : Std.HashMap Window Unit)
    (entries : List (Window × Nat)) :
    (occurrences counts seen entries).2.map (·.start) =
      (entries.filter fun e => 2 ≤ counts.getD e.1 0).map (·.2) := by
  induction entries generalizing seen with
  | nil => rfl
  | cons entry rest ih =>
    obtain ⟨first, place⟩ := entry
    rw [occurrences]
    split
    case isTrue honce =>
      rw [ih, List.filter_cons_of_neg (by simpa using honce)]
    case isFalse htwice =>
      have hfirst : 2 ≤ counts.getD first 0 := Nat.not_lt.1 htwice
      rw [List.filter_cons_of_pos (by simpa using hfirst), List.map_cons, List.map_cons, ih]

theorem starts_sublist (counts : Std.HashMap Window Nat) (seen : Std.HashMap Window Unit)
    (entries : List (Window × Nat)) :
    ((occurrences counts seen entries).2.map (·.start)).Sublist (entries.map (·.2)) := by
  rw [map_start_occurrences]
  exact List.filter_sublist.map Prod.snd

/-- A clone begins where a repeated window begins. -/
theorem mem_clones_iff (counts : Std.HashMap Window Nat) (seen : Std.HashMap Window Unit)
    (entries : List (Window × Nat)) (start : Nat) :
    start ∈ (occurrences counts seen entries).2.map (·.start) ↔
      ∃ w, (w, start) ∈ entries ∧ 2 ≤ counts.getD w 0 := by
  rw [map_start_occurrences]
  simp

theorem mem_copies_cons_iff (o : Occurrence) (found : List Occurrence) (start : Nat) :
    start ∈ ((o :: found).filter (·.isCopy)).map (·.start) ↔
      start = o.start ∧ o.isCopy = true ∨ start ∈ (found.filter (·.isCopy)).map (·.start) := by
  by_cases hcopy : o.isCopy = true <;> simp [hcopy]

/-- A copy begins where a repeated window begins that was seen before the file or begins at an
earlier place of it. -/
theorem mem_copies_iff (counts : Std.HashMap Window Nat) (seen : Std.HashMap Window Unit)
    {entries : List (Window × Nat)} (hplaces : entries.Pairwise fun a b => a.2 < b.2)
    (start : Nat) :
    start ∈ ((occurrences counts seen entries).2.filter (·.isCopy)).map (·.start) ↔
      ∃ w, (w, start) ∈ entries ∧ 2 ≤ counts.getD w 0 ∧
        (w ∈ seen ∨ ∃ earlier < start, (w, earlier) ∈ entries) := by
  induction entries generalizing seen with
  | nil => simp [occurrences]
  | cons entry rest ih =>
    obtain ⟨first, place⟩ := entry
    obtain ⟨hfirst, hrest⟩ := List.pairwise_cons.1 hplaces
    rw [occurrences]
    split
    case isTrue honce =>
      rw [ih seen hrest]
      refine exists_congr fun w => ?_
      by_cases hw : 2 ≤ counts.getD w 0
      · simp [ne_of_repeated hw honce]
      · simp [hw]
    case isFalse htwice =>
      rw [mem_copies_cons_iff, ih _ hrest, Std.HashMap.contains_iff_mem]
      constructor
      · rintro (⟨rfl, hseen⟩ | ⟨w, hmem, hw, hbefore⟩)
        · exact ⟨first, List.mem_cons_self, by omega, .inl hseen⟩
        · refine ⟨w, List.mem_cons_of_mem _ hmem, hw, ?_⟩
          rcases hbefore with hinsert | ⟨earlier, hlt, hearlier⟩
          · rcases Std.HashMap.mem_insert.1 hinsert with he | hseen
            · -- the window is the one at the head, which begins before all others
              exact .inr ⟨place, hfirst _ hmem, by simp [eq_of_beq he]⟩
            · exact .inl hseen
          · exact .inr ⟨earlier, hlt, List.mem_cons_of_mem _ hearlier⟩
      · rintro ⟨w, hmem, hw, hbefore⟩
        rcases List.mem_cons.1 hmem with he | hmem
        · obtain ⟨rfl, rfl⟩ := Prod.mk.inj he
          refine .inl ⟨rfl, hbefore.resolve_right ?_⟩
          rintro ⟨earlier, hlt, hearlier⟩
          rcases List.mem_cons.1 hearlier with he | hearlier
          · exact absurd (congrArg Prod.snd he) hlt.ne
          · exact absurd (hfirst _ hearlier) hlt.asymm
        · refine .inr ⟨w, hmem, hw, ?_⟩
          rcases hbefore with hseen | ⟨earlier, hlt, hearlier⟩
          · exact .inl (Std.HashMap.mem_insert.2 (.inr hseen))
          · rcases List.mem_cons.1 hearlier with he | hearlier
            · exact .inl (Std.HashMap.mem_insert.2 (.inl (by simp [(Prod.mk.inj he).1])))
            · exact .inr ⟨earlier, hlt, hearlier⟩

/-! ## Covered places -/

/-- **The covered places** are counted without counting any of them twice. -/
theorem encard_covered (size reached : Nat) {starts : List Nat} (h : starts.Pairwise (· < ·)) :
    {p | reached ≤ p ∧ ∃ start ∈ starts, start ≤ p ∧ p < start + size}.encard =
      coveredPlaces size reached starts := by
  induction starts generalizing reached with
  | nil => simp [coveredPlaces]
  | cons start rest ih =>
    obtain ⟨hfirst, hrest⟩ := List.pairwise_cons.1 h
    have hsplit : {p | reached ≤ p ∧ ∃ s ∈ start :: rest, s ≤ p ∧ p < s + size} =
        ↑(Finset.Ico (max reached start) (start + size)) ∪
          {p | max reached (start + size) ≤ p ∧ ∃ s ∈ rest, s ≤ p ∧ p < s + size} := by
      ext p
      simp only [Set.mem_ofPred_eq, Set.mem_union, Finset.coe_Ico, Set.mem_Ico, max_le_iff,
        List.mem_cons, exists_eq_or_imp]
      constructor
      · rintro ⟨hreached, ⟨hstart, hstop⟩ | ⟨s, hs, hle, hlt⟩⟩
        · exact .inl ⟨⟨hreached, hstart⟩, hstop⟩
        · -- a place of the first window is counted there, whichever window also covers it
          have hbefore := hfirst s hs
          by_cases hstop : p < start + size
          · exact .inl ⟨⟨hreached, by omega⟩, hstop⟩
          · exact .inr ⟨⟨hreached, by omega⟩, s, hs, hle, hlt⟩
      · rintro (⟨⟨hreached, hstart⟩, hstop⟩ | ⟨⟨hreached, -⟩, hcovered⟩)
        · exact ⟨hreached, .inl ⟨hstart, hstop⟩⟩
        · exact ⟨hreached, .inr hcovered⟩
    have hdisjoint : Disjoint (↑(Finset.Ico (max reached start) (start + size)) : Set ℕ)
        {p | max reached (start + size) ≤ p ∧ ∃ s ∈ rest, s ≤ p ∧ p < s + size} := by
      rw [Set.disjoint_left]
      rintro p hp ⟨hle, -⟩
      rw [Finset.coe_Ico, Set.mem_Ico] at hp
      omega
    rw [hsplit, Set.encard_union_eq hdisjoint, ih _ hrest, Set.encard_coe_eq_coe_finsetCard,
      Nat.card_Ico, coveredPlaces, Nat.cast_add]

end Affinity
