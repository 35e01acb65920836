import Mathlib
import Affinity.Proofs.FileSet.Fates
import Affinity.Proofs.FileSet.Selection
import Affinity.Proofs.Finding.Counting
import Affinity.Proofs.Table.Laws

/-!
# Every delivery is accounted for in a file set

Within a language a candidate is chosen, repeated or beyond the limit; before that a delivery is a
candidate, excluded, in no known language, or warned about. Each of these is recorded once.

* `Selection.length_ofFiles` — the candidates of one language.
* `FileSet.filesSeen_ofFates` — all deliveries.
-/

namespace Affinity

/-- Every candidate is chosen, repeated or beyond the limit. -/
theorem Selection.length_ofFiles (cap : Nat) (files : List SourceFile) :
    (ofFiles cap files).files.length + (ofFiles cap files).repeated.length +
      (ofFiles cap files).truncated = files.length := by
  have hsplit := (keptOf_append_repeatedOf_perm files).length_eq
  rw [List.length_append] at hsplit
  rw [ofFiles_eq]
  show ((keptOf files).take cap).length + (repeatedOf files).length +
    ((keptOf files).length - cap) = files.length
  rw [List.length_take]
  omega

/-- Leaving out what is zero does not change a sum. -/
theorem sumOf_filter_pos {α : Type} (entries : List (α × Nat)) :
    sumOf ((entries.filter fun e => 0 < e.2).map (·.2)) = sumOf (entries.map (·.2)) := by
  induction entries with
  | nil => rfl
  | cons entry rest ih =>
    by_cases h : 0 < entry.2
    · simp [h, ih]
    · simp [Nat.eq_zero_of_not_pos h, ih]

namespace FileSet

variable (cap : Nat) (fates : List Fate)

theorem total_truncated_ofFates :
    (ofFates cap fates).coverage.truncated.total =
      sumOf (Language.all.map fun l => (choice cap (fates.filterMap Fate.kept?) l).truncated) := by
  have hascending : (Language.all.map fun l =>
      (l, (choice cap (fates.filterMap Fate.kept?) l).truncated)).Pairwise
        fun a b => compare a.1 b.1 = .lt := List.pairwise_map.2 Language.pairwise_all
  rw [truncated_ofFates, Table.ofList_of_ascending (hascending.filter _)]
  unfold Table.total Table.values
  rw [sumOf_filter_pos, List.map_map]
  rfl

theorem length_warnings_ofFates :
    (ofFates cap fates).coverage.warnings.length =
      (fates.filterMap Fate.warning?).length +
        sumOf (Language.all.map fun l =>
          (choice cap (fates.filterMap Fate.kept?) l).repeated.length) := by
  rw [warnings_ofFates, FileWarning.ascending, List.length_mergeSort, List.length_append,
    List.length_flatMap, sumOf_eq_sum]
  simp only [repeatWarnings, List.length_map]

theorem length_files_ofFates :
    (ofFates cap fates).files.length =
      sumOf (Language.all.map fun l =>
        (choice cap (fates.filterMap Fate.kept?) l).files.length) := by
  rw [files_ofFates, inOrder, List.length_mergeSort, List.length_flatMap, sumOf_eq_sum]

/-- Every candidate is in the set, warned about or beyond the limit. -/
theorem length_candidates (files : List SourceFile) :
    sumOf (Language.all.map fun l => (choice cap files l).files.length) +
        sumOf (Language.all.map fun l => (choice cap files l).repeated.length) +
        sumOf (Language.all.map fun l => (choice cap files l).truncated) = files.length := by
  rw [← sumOf_map_add, ← sumOf_map_add, ← Language.sumOf_groups SourceFile.language files]
  exact congrArg sumOf (List.map_congr_left fun l _ => Selection.length_ofFiles cap _)

/-- **Every delivery is accounted for once** in the file set that comes of its fates. -/
theorem filesSeen_ofFates :
    (ofFates cap fates).coverage.filesSeen =
      (ofFates cap fates).files.length + (ofFates cap fates).coverage.excluded +
        (ofFates cap fates).coverage.unsupported + (ofFates cap fates).coverage.warnings.length +
        (ofFates cap fates).coverage.truncated.total := by
  have hfates := length_eq_of_fates fates
  have hcandidates := length_candidates cap (fates.filterMap Fate.kept?)
  rw [length_files_ofFates, length_warnings_ofFates, total_truncated_ofFates]
  show fates.length = _ + fates.countP Fate.isExcluded +
    (fates.filterMap Fate.unsupported?).length + _ + _
  omega

/-- The files in no known language are counted by their extensions. -/
theorem unsupported_ofFates :
    (ofFates cap fates).coverage.unsupported =
      (ofFates cap fates).coverage.unsupportedExtensions.total :=
  (Table.total_tally _).symm

end FileSet

end Affinity
