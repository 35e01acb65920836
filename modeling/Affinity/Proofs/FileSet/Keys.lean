import Mathlib
import Affinity.Profile.Batch
import Affinity.Finding.Advanced
import Affinity.Proofs.FileSet.Contents
import Affinity.Proofs.Finding.Clones
import Affinity.Python.Statement

/-!
# Keys of files

Paths are told apart by their components, in which a backslash is a character like any other;
reports name a file by its key, in which it has become a slash. So two files of a set have the same
key if their paths differ only in the sides to which slashes lean. If no two do, the tables that
reports keep by the names of files have an entry for each file.

* `Path.key_eq_iff` — paths with the same key.
* `CommentReport.entries_filesWithMarkers_perm`, `DuplicationReport.entries_perFile_perm` — the
  tables of reports.
* `DuplicationReport.worst_of_mostDuplicatedOf` — no file has more cloned lines than the most
  duplicated one.
* `FileSet.nodup_keys_iff` — when the keys of some files are distinct.
* `FileSet.ofDeliveries_keys` — the keys in the set of some deliveries.
-/

namespace Affinity

/-! ## Paths with the same key -/

namespace Path

/-- The same character, or two slashes, whatever the sides to which they lean. -/
def SameButSlash (a b : Char) : Prop := a = b ∨ a ∈ ['/', '\\'] ∧ b ∈ ['/', '\\']

/-- The paths differ, but only in the sides to which slashes lean. -/
def DifferInSlashes (p q : Path) : Prop :=
  p ≠ q ∧ List.Forall₂ SameButSlash p.text.toList q.text.toList

theorem sameButSlash_iff {a b : Char} :
    SameButSlash a b ↔ (if a = '\\' then '/' else a) = if b = '\\' then '/' else b := by
  unfold SameButSlash
  simp only [List.mem_cons, List.not_mem_nil, or_false]
  split <;> split <;> grind

theorem toList_key (p : Path) :
    p.key.toList = p.text.toList.map fun c => if c = '\\' then '/' else c := by
  rw [key, String.toList_ofList, replaceChar, List.map_eq_flatMap]
  exact List.flatMap_congr fun c _ => (apply_ite (fun c => [c]) _ _ _).symm

/-- **Paths with the same key** differ at most in the sides to which slashes lean. -/
theorem key_eq_iff {p q : Path} :
    p.key = q.key ↔ List.Forall₂ SameButSlash p.text.toList q.text.toList := by
  have hsame : SameButSlash = fun a b =>
      (if a = '\\' then '/' else a) = if b = '\\' then '/' else b :=
    funext fun _ => funext fun _ => propext sameButSlash_iff
  rw [← String.toList_inj, toList_key, toList_key, hsame, ← List.forall₂_eq_eq_eq,
    List.forall₂_map_left_iff, List.forall₂_map_right_iff]

theorem toList_key_of_notMem {p : Path} (h : '\\' ∉ p.text.toList) :
    p.key.toList = p.text.toList := by
  have hsame : ∀ c ∈ p.text.toList, (if c = '\\' then '/' else c) = id c :=
    fun c hc => if_neg fun (he : c = '\\') => h (he ▸ hc)
  rw [toList_key, List.map_congr_left hsame, List.map_id]

/-- One of two slashes leans backwards. -/
theorem DifferInSlashes.mem_or_mem {p q : Path} (h : p.DifferInSlashes q) :
    '\\' ∈ p.text.toList ∨ '\\' ∈ q.text.toList := by
  obtain ⟨hne, hsame⟩ := h
  by_contra hnone
  obtain ⟨hp, hq⟩ := not_or.1 hnone
  have hkeys : p.key = q.key := key_eq_iff.2 hsame
  rw [← String.toList_inj, toList_key_of_notMem hp, toList_key_of_notMem hq,
    String.toList_inj] at hkeys
  exact hne (congrArg Path.mk hkeys)

end Path

/-! ## Tables by the names of files -/

theorem CommentReport.entries_filesWithMarkers_perm {K : Type} [Scalar K] {files : List FileFacts}
    (h : (files.map (·.path)).Nodup) :
    (ofFiles files : CommentReport K).filesWithMarkers.entries.Perm
      ((files.filter fun f => 0 < f.markers.total).map fun f => (f.path, f.markers.total)) := by
  have hkeys : ((((files.filter fun f => 0 < f.markers.total).map fun f =>
      (f.path, f.markers.total))).map (·.1)).Nodup := by
    rw [List.map_map]
    exact h.sublist (List.filter_sublist.map _)
  have htable := Table.entries_foldl_add_perm hkeys
  rw [List.foldl_map, List.foldl_filter] at htable
  simpa [ofFiles] using htable

namespace DuplicationReport

/-- The files with clones by their paths. -/
def perFile (files : List Coverage) : Table String Coverage :=
  .ofList ((files.filter fun f => 0 < f.cloned).map fun f => (f.path, f))

/-- The worse of two files, the first one if they are equally bad. -/
def worse : Option Coverage → Coverage → Option Coverage
  | some b, f => if b.cloned < f.cloned then some f else some b
  | none, f => some f

theorem mostDuplicatedOf_eq (files : List Coverage) :
    mostDuplicatedOf files = (perFile files).values.foldl worse none := by
  show (perFile files).values.foldl _ none = _
  congr 1
  funext best f
  cases best <;> rfl

/-- The worst of some files is one of them, and none of them is worse. -/
theorem foldl_worse {b f : Coverage} {files : List Coverage}
    (h : files.foldl worse (some b) = some f) :
    f ∈ b :: files ∧ ∀ g ∈ b :: files, g.cloned ≤ f.cloned := by
  induction files generalizing b with
  | nil =>
    cases h
    simp
  | cons next rest ih =>
    rw [List.foldl_cons] at h
    by_cases hmore : b.cloned < next.cloned
    · rw [worse, if_pos hmore] at h
      obtain ⟨hf, hworst⟩ := ih h
      have hnext := hworst next List.mem_cons_self
      exact ⟨List.mem_cons_of_mem _ hf, List.forall_mem_cons.2 ⟨by omega, hworst⟩⟩
    · rw [worse, if_neg hmore] at h
      obtain ⟨hf, hworst⟩ := ih h
      obtain ⟨hb, hrest⟩ := List.forall_mem_cons.1 hworst
      refine ⟨?_, List.forall_mem_cons.2 ⟨hb, List.forall_mem_cons.2 ⟨by omega, hrest⟩⟩⟩
      exact (List.mem_cons.1 hf).elim (fun he => he ▸ List.mem_cons_self)
        fun hf => List.mem_cons_of_mem _ (List.mem_cons_of_mem _ hf)

theorem entries_perFile_perm {files : List Coverage} (h : (files.map (·.path)).Nodup) :
    (perFile files).entries.Perm
      ((files.filter fun f => 0 < f.cloned).map fun f => (f.path, f)) := by
  refine Table.entries_ofList_perm ?_
  rw [List.map_map]
  exact h.sublist (List.filter_sublist.map _)

/-- **The most duplicated file** of files with distinct paths: none has more cloned lines. -/
theorem worst_of_mostDuplicatedOf {files : List Coverage} (hpaths : (files.map (·.path)).Nodup)
    {f : Coverage} (h : mostDuplicatedOf files = some f) :
    f ∈ files ∧ ∀ g ∈ files, g.cloned ≤ f.cloned := by
  have hvalues : (perFile files).values.Perm (files.filter fun g => 0 < g.cloned) := by
    have hmap := (entries_perFile_perm hpaths).map (·.2)
    rwa [List.map_map, show ((·.2) ∘ fun f : Coverage => (f.path, f)) = id from rfl,
      List.map_id] at hmap
  rw [mostDuplicatedOf_eq] at h
  cases hlist : (perFile files).values with
  | nil =>
    rw [hlist] at h
    cases h
  | cons b rest =>
    rw [hlist] at h hvalues
    obtain ⟨hf, hworst⟩ := foldl_worse h
    refine ⟨List.mem_of_mem_filter (hvalues.mem_iff.1 hf), fun g hg => ?_⟩
    rcases Nat.eq_zero_or_pos g.cloned with hnone | hsome
    · omega
    · exact hworst g (hvalues.mem_iff.2 (List.mem_filter.2 ⟨hg, decide_eq_true hsome⟩))

theorem map_path_coverages (size : Nat) (counts : Std.HashMap Window Nat)
    (seen : Std.HashMap Window Unit) (files : List FileFacts) :
    (coverages size counts seen files).map (·.path) = files.map (·.path) := by
  induction files generalizing seen with
  | nil => rfl
  | cons f rest ih => exact congrArg (f.path :: ·) (ih _)

/-- What is covered by clones and copies in the files of a report. -/
def covered (size : Nat) (files : List FileFacts) : List Coverage :=
  coverages size (countsOf size files) {} files

end DuplicationReport

theorem SourceFile.path_facts [Python.Grammar] (file : SourceFile) :
    file.facts.path = file.key := by
  have hrules : file.ruleFacts.path = file.key := by
    unfold ruleFacts
    simp only
    split <;> rfl
  unfold facts
  split
  · unfold Python.facts
    simp only
    split <;> rfl
  · exact hrules

namespace FileSet

open DuplicationReport (covered perFile)

/-- **When the keys of some files are distinct**: no two paths differ only in the sides to which
slashes lean. -/
theorem nodup_keys_iff {files : List SourceFile}
    (h : files.Pairwise fun a b => compare a.path b.path = .lt) :
    (files.map SourceFile.key).Nodup ↔
      ∀ f ∈ files, ∀ g ∈ files, ¬ f.path.DifferInSlashes g.path := by
  have hpaths : (files.map SourceFile.path).Nodup := List.pairwise_map.2 (h.imp path_ne_of_lt)
  rw [List.nodup_map_iff_inj_on hpaths.of_map]
  constructor
  · intro hinj f hf g hg ⟨hne, hsame⟩
    exact hne (congrArg SourceFile.path (hinj f hf g hg (Path.key_eq_iff.2 hsame)))
  · intro hapart f hf g hg hkey
    by_contra hne
    have hpath : f.path ≠ g.path := fun he => hne (List.inj_on_of_nodup_map hpaths hf hg he)
    exact hapart f hf g hg ⟨hpath, Path.key_eq_iff.1 hkey⟩

/-- The tables that reports keep by the names of the analyzed files have an entry for each file. -/
structure TablesApart (K : Type) [Scalar K] (size : Nat) (analyzed : List FileFacts) : Prop where
  /-- A file with marks of unfinished work has an entry of its own, with the number of its marks. -/
  markers : (CommentReport.ofFiles analyzed : CommentReport K).filesWithMarkers.entries.Perm
    ((analyzed.filter fun f => 0 < f.markers.total).map fun f => (f.path, f.markers.total))
  /-- The files that are looked at for clones are the analyzed ones. -/
  paths : (covered size analyzed).map (·.path) = analyzed.map (·.path)
  /-- A file with clones has an entry of its own, with what is covered in this file. -/
  clones : (perFile (covered size analyzed)).entries.Perm
    (((covered size analyzed).filter fun f => 0 < f.cloned).map fun f => (f.path, f))
  /-- The files that are counted are those in the table. -/
  count : (DuplicationReport.ofFiles size analyzed : DuplicationReport K).filesWithDuplicates =
    (perFile (covered size analyzed)).size
  /-- The file that is called the most duplicated is the one with the most cloned lines. -/
  worst : ∀ most,
    (DuplicationReport.ofFiles size analyzed : DuplicationReport K).mostDuplicated = some most →
      ∃ f ∈ covered size analyzed, most.path = f.path ∧ most.duplicatedLines = f.cloned ∧
        ∀ g ∈ covered size analyzed, g.cloned ≤ f.cloned

theorem tablesApart {K : Type} [Scalar K] (size : Nat) {analyzed : List FileFacts}
    (h : (analyzed.map (·.path)).Nodup) : TablesApart K size analyzed := by
  have hpaths : (covered size analyzed).map (·.path) = analyzed.map (·.path) :=
    DuplicationReport.map_path_coverages size _ {} analyzed
  have hnodup : ((covered size analyzed).map (·.path)).Nodup := hpaths ▸ h
  have hclones := DuplicationReport.entries_perFile_perm hnodup
  refine ⟨CommentReport.entries_filesWithMarkers_perm h, hpaths, hclones, ?_, ?_⟩
  · rw [Table.size, hclones.length_eq, List.length_map, ← List.countP_eq_length_filter]
    rfl
  · intro most hmost
    obtain ⟨f, hf, rfl⟩ := Option.map_eq_some_iff.1 hmost
    obtain ⟨hmem, hworst⟩ := DuplicationReport.worst_of_mostDuplicatedOf hnodup hf
    exact ⟨f, hmem, rfl, rfl, hworst⟩

/-- What holds of the keys of a set that was chosen. -/
structure KeysIdentify [Python.Grammar] (K : Type) [Scalar K] (set : FileSet) : Prop where
  /-- The keys are distinct unless two paths differ only in the sides to which slashes lean, … -/
  nodup_iff : (set.files.map SourceFile.key).Nodup ↔
    ∀ f ∈ set.files, ∀ g ∈ set.files, ¬ f.path.DifferInSlashes g.path
  /-- … and then no table merges two files, whichever of them are analyzed, in whatever order. -/
  apart : (set.files.map SourceFile.key).Nodup → ∀ size analyzed,
    analyzed.Subperm (set.files.map SourceFile.facts) → TablesApart K size analyzed

theorem keysIdentify_ofFates [Python.Grammar] {K : Type} [Scalar K] {cap : Nat} {fates : List Fate}
    (hdetected : Detected (fates.filterMap Fate.kept?)) : KeysIdentify K (ofFates cap fates) where
  nodup_iff := nodup_keys_iff (pairwise_files_ofFates hdetected)
  apart := by
    rintro hnodup size analyzed ⟨chosen, hperm, hsublist⟩
    refine tablesApart size ?_
    have hkeys : ((ofFates cap fates).files.map SourceFile.facts).map (·.path) =
        (ofFates cap fates).files.map SourceFile.key := by
      rw [List.map_map]
      exact List.map_congr_left fun f _ => f.path_facts
    rw [← (hperm.map _).nodup_iff]
    exact (hkeys ▸ hnodup).sublist (hsublist.map _)

end FileSet

end Affinity
