import Mathlib.Data.List.Basic
import Affinity.Profile.Batch

/-!
# Batches worked on in parts

The files of a set may be split into consecutive parts, the parts into smaller ones and so on; the
batches of the parts are merged as the parts are put together. Whatever the split is, the batch is
the one of all files taken in one after the other: the facts of the files that were begun, in their
order, and the numbers of those that were not begun or not accepted by the grammar.

* `Work` — the files of a set with the way in which they are split.
* `Batch.ofFiles_eq` — the batch of some files.
* `Work.batch_eq` — it does not depend on the split.
-/

namespace Affinity

namespace Batch

/-! ## Merging -/

@[simp] theorem merge_empty (batch : Batch) : batch.merge {} = batch := by
  cases batch
  simp [merge]

@[simp] theorem empty_merge (batch : Batch) : merge {} batch = batch := by
  cases batch
  simp [merge]

theorem merge_assoc (a b c : Batch) : (a.merge b).merge c = a.merge (b.merge c) := by
  simp [merge, Nat.add_assoc]

/-- Taking in a file is merging with the batch of this file. -/
theorem next_eq_merge [Python.Grammar] (batch : Batch) (file : SourceFile) (expired : Bool) :
    batch.next file expired = batch.merge (next {} file expired) := by
  cases expired <;> simp [next, skip, add, merge]

theorem foldl_next_eq_merge [Python.Grammar] (files : List (SourceFile × Bool)) (batch : Batch) :
    files.foldl (fun batch (file, expired) => batch.next file expired) batch =
      batch.merge (ofFiles files) := by
  induction files generalizing batch with
  | nil => exact (merge_empty batch).symm
  | cons entry rest ih =>
    obtain ⟨file, expired⟩ := entry
    have hfirst : ofFiles ((file, expired) :: rest) =
        (next {} file expired).merge (ofFiles rest) := ih _
    rw [List.foldl_cons, ih, hfirst, ← merge_assoc]
    exact congrArg (·.merge (ofFiles rest)) (next_eq_merge batch file expired)

/-- The batch of files that come one part after the other. -/
theorem ofFiles_append [Python.Grammar] (earlier later : List (SourceFile × Bool)) :
    ofFiles (earlier ++ later) = (ofFiles earlier).merge (ofFiles later) := by
  rw [ofFiles, List.foldl_append]
  exact foldl_next_eq_merge later (ofFiles earlier)

/-! ## What a batch holds -/

/-- The facts about the files that were begun. -/
def factsOf [Python.Grammar] (files : List (SourceFile × Bool)) : List FileFacts :=
  (files.filter fun entry => !entry.2).map fun entry => entry.1.facts

/-- **The batch of some files** holds the facts of those that were begun and counts the others. -/
theorem ofFiles_eq [Python.Grammar] (files : List (SourceFile × Bool)) :
    ofFiles files =
      { files := factsOf files
        timedOut := files.countP fun entry => entry.2
        fallbacks := (factsOf files).countP fun facts => facts.fallback } := by
  induction files with
  | nil => rfl
  | cons entry rest ih =>
    obtain ⟨file, expired⟩ := entry
    have hfirst : ofFiles ((file, expired) :: rest) =
        (next {} file expired).merge (ofFiles rest) := foldl_next_eq_merge rest _
    rw [hfirst, ih]
    cases expired with
    | true => simp [next, skip, merge, factsOf, Nat.add_comm]
    | false =>
      cases h : file.facts.fallback <;> simp [next, add, merge, factsOf, h, Nat.add_comm]

/-- Every file is either begun or counted as not begun. -/
theorem length_ofFiles [Python.Grammar] (files : List (SourceFile × Bool)) :
    (ofFiles files).files.length + (ofFiles files).timedOut = files.length := by
  have hsplit : files.length = files.countP (fun entry => entry.2) +
      (files.filter fun entry => !entry.2).length := by
    rw [← List.countP_eq_length_filter]
    simpa using List.length_eq_countP_add_countP fun entry : SourceFile × Bool => entry.2
  rw [ofFiles_eq]
  show ((files.filter _).map _).length + files.countP _ = files.length
  rw [List.length_map, hsplit, Nat.add_comm]

theorem fallbacks_ofFiles_le [Python.Grammar] (files : List (SourceFile × Bool)) :
    (ofFiles files).fallbacks ≤ (ofFiles files).files.length := by
  rw [ofFiles_eq]
  exact List.countP_le_length

end Batch

/-! ## Any split -/

/-- Some files, each with a mark that says whether time was over, split into consecutive parts. -/
inductive Work where
  | part (files : List (SourceFile × Bool))
  | both (earlier later : Work)
  deriving Repr

namespace Work

/-- All files in their order. -/
def files : Work → List (SourceFile × Bool)
  | part files => files
  | both earlier later => earlier.files ++ later.files

/-- The batches of the parts, merged as the parts are put together. -/
def batch [Python.Grammar] : Work → Batch
  | part files => .ofFiles files
  | both earlier later => earlier.batch.merge later.batch

/-- **The split does not matter**: the batch is that of all files in their order. -/
theorem batch_eq [Python.Grammar] (work : Work) : work.batch = .ofFiles work.files := by
  induction work with
  | part files => rfl
  | both earlier later hearlier hlater =>
    rw [batch, files, hearlier, hlater, Batch.ofFiles_append]

end Work

end Affinity
