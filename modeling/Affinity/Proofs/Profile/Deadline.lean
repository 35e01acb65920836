import Mathlib.Data.List.Basic
import Affinity.Proofs.Profile.Batches
import Affinity.Python.Statement

/-!
# Work that is cut short

When time is over, the files that were not begun are counted and left out. What is then found out
about a repository is what would have been found out about the files that were begun, had there been
no others: only the coverage tells the two apart. How the work was split does not matter either.

* `Work.begun` — the files that were begun.
* `Profile.SameFindings` — two profiles that differ at most in their coverage.
* `Work.batch_of_begun` — the batch and the profile of any work that was cut short anywhere.
-/

namespace Affinity

/-- The files that were begun, in their order. -/
def Work.begun (work : Work) : List SourceFile :=
  (work.files.filter fun entry => !entry.2).map (·.1)

/-- The files of a set none of which came too late. -/
theorem Batch.factsOf_inTime [Python.Grammar] (files : List SourceFile) :
    factsOf (files.map fun file => (file, false)) = files.map (·.facts) := by
  unfold factsOf
  rw [List.filter_map, List.map_map]
  exact congrArg (List.map _) (List.filter_true files)

theorem Batch.factsOf_work [Python.Grammar] (work : Work) :
    factsOf work.files = work.begun.map (·.facts) := by
  unfold factsOf Work.begun
  rw [List.map_map]
  rfl

/-- The files that were begun stand in order if all files do. -/
theorem Work.ofFiles_begun {work : Work}
    (h : (work.files.map (·.1)).Pairwise fun a b => (compare a.path b.path).isLE) :
    (FileSet.ofFiles work.begun).files = work.begun := by
  have hsublist : work.begun.Sublist (work.files.map (·.1)) := List.filter_sublist.map _
  exact List.mergeSort_of_pairwise (h.sublist hsublist)

namespace Profile

variable {K : Type} [Scalar K]

/-- The profiles agree in everything that was found out about the files. -/
structure SameFindings (p q : Profile K) : Prop where
  scores : p.scores = q.scores
  languages : p.languages = q.languages
  languageMetrics : p.languageMetrics = q.languageMetrics
  advanced : p.advanced = q.advanced

/-- The coverage is written into a profile and has no other influence. -/
theorem sameFindings_ofMetrics (name : String) (metrics : List (LanguageMetrics K))
    (advanced : AdvancedMetrics K) (weights : Weights K) (coverage other : Coverage) :
    (ofMetrics name metrics advanced coverage weights).SameFindings
      (ofMetrics name metrics advanced other weights) := by
  unfold ofMetrics
  simp only
  split
  · exact ⟨rfl, rfl, rfl, rfl⟩
  · exact ⟨rfl, rfl, rfl, rfl⟩

/-- Profiles of batches that hold the same files. -/
theorem sameFindings_ofBatch (settings : Settings K) (name : String) {a b : Batch}
    (h : a.files = b.files) (coverage other : Coverage) :
    (ofBatch settings name coverage a).SameFindings (ofBatch settings name other b) := by
  have hfiles : a.inOrder.files = b.inOrder.files := by
    unfold Batch.inOrder
    rw [h]
  unfold ofBatch
  simp only
  rw [hfiles]
  exact sameFindings_ofMetrics ..

/-- The batch of a file set whose files all come in time. -/
theorem files_ofFiles_inTime [Python.Grammar] (set : FileSet) :
    (Batch.ofFiles (set.files.zipIdx.map fun (file, _) => (file, false))).files =
      set.files.map (·.facts) := by
  have hpairs : (set.files.zipIdx.map fun (file, _) => (file, false)) =
      set.files.map fun file => (file, false) :=
    calc (set.files.zipIdx.map fun (file, _) => (file, false))
        = (set.files.zipIdx.map Prod.fst).map fun file => (file, false) := by rw [List.map_map]; rfl
      _ = set.files.map fun file => (file, false) := by rw [List.zipIdx_map_fst]
  rw [hpairs, Batch.ofFiles_eq]
  exact Batch.factsOf_inTime set.files

end Profile

/-- **Work that is cut short**, however it is split and whichever files come too late. Its batch is
that of all files taken in one after the other, every file is in it or counted as not begun, and its
profile says of the repository what that of a set of only the begun files says. -/
theorem Work.batch_of_begun [Python.Grammar] {K : Type} [Scalar K] (settings : Settings K)
    (name : String) (coverage : Coverage) (work : Work) :
    work.batch = .ofFiles work.files ∧
      work.batch.files.length + work.batch.timedOut = work.files.length ∧
      ∀ kept : FileSet, kept.files = work.begun →
        (Profile.ofBatch settings name coverage work.batch).SameFindings
          (Profile.ofFileSet settings name (fun _ => false) kept) := by
  refine ⟨batch_eq work, ?_, ?_⟩
  · rw [batch_eq]
    exact Batch.length_ofFiles work.files
  · intro kept hkept
    unfold Profile.ofFileSet
    apply Profile.sameFindings_ofBatch
    rw [Profile.files_ofFiles_inTime, hkept, batch_eq, Batch.ofFiles_eq]
    exact Batch.factsOf_work work

/-- Three files in three parts, of which the middle one is empty and the second file comes too
late. -/
theorem Work.batch_of_begun_second_too_late :
    let file (path : String) : SourceFile := ⟨⟨path⟩, .go, "package main"⟩
    let work : Work :=
      .both (.part [(file "a.go", false)])
        (.both (.part []) (.part [(file "b.go", true), (file "c.go", false)]))
    let kept := FileSet.ofFiles work.begun
    kept.files = work.begun ∧
      (Profile.ofBatch (.standard : Settings Float) "acme/api" {} work.batch).SameFindings
        (Profile.ofFileSet .standard "acme/api" (fun _ => false) kept) := by
  intro file work kept
  have hkept : kept.files = work.begun := by
    apply Work.ofFiles_begun
    decide +kernel
  obtain ⟨-, -, hfindings⟩ := Work.batch_of_begun (.standard : Settings Float) "acme/api" {} work
  exact ⟨hkept, hfindings kept hkept⟩

end Affinity
