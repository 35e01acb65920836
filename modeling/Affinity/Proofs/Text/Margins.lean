import Mathlib.Data.List.TakeWhile
import Affinity.Text.Lines

/-!
# Blanks and margins

* `toNat_mem_blankCodes` — the blanks are twenty-five characters.
* `exists_margins` — a text is what `trim` leaves of it between two margins of blanks.
* `trim_eq_nil_iff` — nothing is left of a text of blanks only.
* `isSuffix_trim_iff` — the last character that is left is the last one that is not blank.
-/

namespace Affinity

/-! ## Blanks -/

/-- The code points of the blanks. -/
def blankCodes : List Nat :=
  [0x09, 0x0A, 0x0B, 0x0C, 0x0D, 0x20, 0x85, 0xA0, 0x1680, 0x2000, 0x2001, 0x2002, 0x2003, 0x2004,
    0x2005, 0x2006, 0x2007, 0x2008, 0x2009, 0x200A, 0x2028, 0x2029, 0x202F, 0x205F, 0x3000]

theorem toNat_mem_blankCodes {c : Char} (h : isBlank c = true) : c.toNat ∈ blankCodes := by
  unfold isBlank at h
  extract_lets n at h
  simp only [blankCodes, List.mem_cons, List.not_mem_nil, or_false]
  split at h <;> simp at h <;> omega

theorem allBlank_append {s t : List Char} :
    allBlank (s ++ t) = true ↔ allBlank s = true ∧ allBlank t = true := by
  rw [allBlank, List.all_append, Bool.and_eq_true]
  rfl

theorem allBlank_cons {c : Char} {s : List Char} :
    allBlank (c :: s) = true ↔ isBlank c = true ∧ allBlank s = true := by
  rw [allBlank, List.all_cons, Bool.and_eq_true]
  rfl

theorem allBlank_of_isPrefix {s t : List Char} (h : s <+: t) (ht : allBlank t = true) :
    allBlank s = true := by
  obtain ⟨rest, rfl⟩ := h
  exact (allBlank_append.1 ht).1

theorem isBlank_of_mem {s : List Char} (h : allBlank s = true) {c : Char} (hc : c ∈ s) :
    isBlank c = true :=
  List.all_eq_true.1 h c hc

/-! ## Margins -/

theorem exists_margin_dropWhile (s : List Char) :
    ∃ margin, allBlank margin = true ∧ s = margin ++ s.dropWhile isBlank :=
  ⟨s.takeWhile isBlank, List.all_takeWhile, List.takeWhile_append_dropWhile.symm⟩

/-- A text is what trimming leaves of it between two margins of blanks. -/
theorem exists_margins (s : List Char) :
    ∃ before behind, allBlank before = true ∧ allBlank behind = true ∧
      s = before ++ trim s ++ behind := by
  obtain ⟨before, hbefore, hstart⟩ := exists_margin_dropWhile s
  obtain ⟨behind, hbehind, hend⟩ := exists_margin_dropWhile (trimStart s).reverse
  refine ⟨before, behind.reverse, hbefore, ?_, ?_⟩
  · rwa [allBlank, List.all_reverse]
  · have hrest : trimStart s = trim s ++ behind.reverse := by
      rw [trim, trimEnd, dropWhileEnd, ← List.reverse_append, ← hend, List.reverse_reverse]
    rw [List.append_assoc, ← hrest]
    exact hstart

/-- Nothing is left of a text of blanks only. -/
theorem trim_eq_nil_iff (s : List Char) : trim s = [] ↔ allBlank s = true := by
  constructor
  · intro h
    obtain ⟨before, behind, hbefore, hbehind, hs⟩ := exists_margins s
    rw [hs, h, List.append_nil, allBlank_append]
    exact ⟨hbefore, hbehind⟩
  · intro h
    have hstart : trimStart s = [] := List.dropWhile_eq_nil_iff.2 (List.all_eq_true.1 h)
    rw [trim, hstart]
    rfl

theorem trim_append_cons {before blanks : List Char} {c : Char} (hc : isBlank c = false)
    (hblanks : allBlank blanks = true) :
    trim (before ++ c :: blanks) = trimStart before ++ [c] := by
  have hstart : trimStart (before ++ c :: blanks) = trimStart before ++ c :: blanks := by
    rw [trimStart, List.dropWhile_append]
    split
    · next h => rw [trimStart, List.isEmpty_iff.1 h, List.dropWhile_cons_of_neg (by simp [hc])]; rfl
    · rfl
  have hend : blanks.reverse.dropWhile isBlank = [] :=
    List.dropWhile_eq_nil_iff.2 fun d hd => isBlank_of_mem hblanks (List.mem_reverse.1 hd)
  rw [trim, hstart, trimEnd, dropWhileEnd, List.reverse_append, List.reverse_cons,
    List.append_assoc, List.dropWhile_append, hend]
  simp [hc]

/-- A character that is not blank is the last one that is left exactly if only blanks follow it. -/
theorem isSuffix_trim_iff {s : List Char} {c : Char} (hc : isBlank c = false) :
    [c] <:+ trim s ↔ ∃ before blanks, s = before ++ c :: blanks ∧ allBlank blanks = true := by
  constructor
  · rintro ⟨before, hbefore⟩
    obtain ⟨start, behind, -, hbehind, hs⟩ := exists_margins s
    refine ⟨start ++ before, behind, ?_, hbehind⟩
    rw [hs, ← hbefore]
    simp
  · rintro ⟨before, blanks, rfl, hblanks⟩
    rw [trim_append_cons hc hblanks]
    exact List.suffix_append ..

end Affinity
