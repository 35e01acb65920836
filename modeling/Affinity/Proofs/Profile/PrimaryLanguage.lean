import Mathlib
import Affinity.Proofs.Profile.Isolation

/-!
# The primary language

The primary language of a repository is the one with the most files, the first of several. A profile
finds it with the first greatest of its shares, a file set with the last greatest of its counts in
an order that turns the languages around. If every file of the set was analyzed, the shares count
the same files, and both find the same language.

* `lastGreatest?_eq_some_iff`, `greatest?_eq_lastGreatest?` — the two searches.
* `FileSet.Grouped` — the groups of a set, by language, and their sizes.
* `FileSet.IsPrimary` — the language with the most files.
* `Profile.filesByLanguage_ofBatch` — the shares of a profile count the files of the set.
* `Profile.primaryLanguage?_ofBatch` — both primary languages of a set.
-/

namespace Affinity

/-! ## The greatest of a list -/

section

variable {α : Type} {cmp : α → α → Ordering} [Std.TransCmp cmp]

variable (cmp) in
/-- Keeping the greater of two, one after the other, ends with an element that none is above. -/
theorem foldl_greater (first : α) (rest : List α) :
    rest.foldl (fun best a => if cmp best a = .gt then best else a) first ∈ first :: rest ∧
      ∀ b ∈ first :: rest,
        (cmp b (rest.foldl (fun best a => if cmp best a = .gt then best else a) first)).isLE := by
  induction rest generalizing first with
  | nil =>
    refine ⟨List.mem_singleton.2 rfl, fun b hb => ?_⟩
    rw [List.mem_singleton.1 hb]
    exact Std.ReflCmp.isLE_rfl
  | cons c rest ih =>
    rw [List.foldl_cons]
    obtain ⟨hmem, habove⟩ := ih (if cmp first c = .gt then first else c)
    have hnext := habove _ List.mem_cons_self
    have hrest : ∀ b ∈ rest, _ := fun b hb => habove b (List.mem_cons_of_mem _ hb)
    by_cases hgt : cmp first c = .gt
    · rw [if_pos hgt] at hmem hnext hrest ⊢
      have hc : (cmp c first).isLE := by rw [Std.OrientedCmp.lt_of_gt hgt]; rfl
      refine ⟨?_, ?_⟩
      · rcases List.mem_cons.1 hmem with heq | hmem
        · rw [heq]
          exact List.mem_cons_self
        · exact List.mem_cons_of_mem _ (List.mem_cons_of_mem _ hmem)
      · simp only [List.forall_mem_cons]
        exact ⟨hnext, Std.TransCmp.isLE_trans hc hnext, hrest⟩
    · rw [if_neg hgt] at hmem hnext hrest ⊢
      have hfirst : (cmp first c).isLE := Ordering.isLE_iff_ne_gt.2 hgt
      refine ⟨List.mem_cons_of_mem _ hmem, ?_⟩
      simp only [List.forall_mem_cons]
      exact ⟨Std.TransCmp.isLE_trans hfirst hnext, hnext, hrest⟩

/-- **The greatest element**, if different elements do not compare as equal. -/
theorem lastGreatest?_eq_some_iff [Std.LawfulEqCmp cmp] {l : List α} {a : α} :
    lastGreatest? cmp l = some a ↔ a ∈ l ∧ ∀ b ∈ l, (cmp b a).isLE := by
  cases l with
  | nil => simp [lastGreatest?]
  | cons first rest =>
    obtain ⟨hmem, habove⟩ := foldl_greater cmp first rest
    rw [lastGreatest?, Option.some.injEq]
    constructor
    · rintro rfl
      exact ⟨hmem, habove⟩
    · rintro ⟨ha, hmost⟩
      exact Std.LawfulEqCmp.eq_of_compare
        (Std.OrientedCmp.isLE_antisymm (hmost _ hmem) (habove a ha))

end

theorem lastGreatest?_eq_none_iff {α : Type} {cmp : α → α → Ordering} {l : List α} :
    lastGreatest? cmp l = none ↔ l = [] := by
  cases l <;> simp [lastGreatest?]

instance : Std.TransCmp compareCounts :=
  have : Std.TransCmp fun a b : Language × Nat => compareOn Prod.fst b a := Std.TransCmp.opposite
  inferInstanceAs (Std.TransCmp
    (compareLex (compareOn Prod.snd) fun a b : Language × Nat => compareOn Prod.fst b a))

instance : Std.LawfulEqCmp compareCounts where
  eq_of_compare {a b} h := by
    obtain ⟨hcount, hlanguage⟩ := Ordering.then_eq_eq.1 h
    exact Prod.ext (Std.LawfulEqOrd.eq_of_compare hlanguage).symm
      (Std.LawfulEqOrd.eq_of_compare hcount)

theorem isLE_compareCounts_iff {a b : Language × Nat} :
    (compareCounts a b).isLE ↔ a.2 < b.2 ∨ a.2 = b.2 ∧ (compare b.1 a.1).isLE := by
  rw [compareCounts]
  cases h : compare a.2 b.2 with
  | lt => simp [Nat.compare_eq_lt.1 h]
  | eq => simp [Nat.compare_eq_eq.1 h]
  | gt =>
    have hlt := Nat.compare_eq_gt.1 h
    simp
    omega

/-- Of two languages in order, the first stays ahead unless the other one has more files. -/
theorem compareCounts_eq_gt_iff {a b : Language × Nat} (h : compare a.1 b.1 = .lt) :
    compareCounts a b = .gt ↔ ¬ a.2 < b.2 := by
  have hback : compare b.1 a.1 = .gt := Std.OrientedCmp.gt_of_lt h
  rw [compareCounts, hback]
  cases hcount : compare a.2 b.2 with
  | lt => simp [Nat.compare_eq_lt.1 hcount]
  | eq => simp [Nat.compare_eq_eq.1 hcount]
  | gt => simp [Nat.le_of_lt (Nat.compare_eq_gt.1 hcount)]

/-- The first of the greatest is the last one in the order that turns the languages around. -/
theorem foldl_first_eq_foldl_last
    {next : Option (Language × Nat) → Language × Nat → Option (Language × Nat)}
    (hnext : ∀ best entry, next (some best) entry = some (if best.2 < entry.2 then entry else best))
    {best : Language × Nat} {rest : List (Language × Nat)}
    (h : (best :: rest).Pairwise fun a b => compare a.1 b.1 = .lt) :
    rest.foldl next (some best) =
      some (rest.foldl (fun best a => if compareCounts best a = .gt then best else a) best) := by
  induction rest generalizing best with
  | nil => rfl
  | cons entry rest ih =>
    obtain ⟨hbest, hrest⟩ := List.pairwise_cons.1 h
    have hentry := hbest entry List.mem_cons_self
    rw [List.foldl_cons, List.foldl_cons, hnext]
    by_cases hmore : best.2 < entry.2
    · have hstep : ¬ compareCounts best entry = .gt :=
        fun hgt => (compareCounts_eq_gt_iff hentry).1 hgt hmore
      rw [if_pos hmore, if_neg hstep]
      exact ih hrest
    · have hstep : compareCounts best entry = .gt := (compareCounts_eq_gt_iff hentry).2 hmore
      rw [if_neg hmore, if_pos hstep]
      exact ih (h.sublist ((List.sublist_cons_self entry rest).cons_cons best))

/-- **Both searches find the same language**, ties included. -/
theorem greatest?_eq_lastGreatest? {counts : Table Language Nat} (h : counts.Ascending) :
    counts.greatest? = (lastGreatest? compareCounts counts.entries).map (·.1) := by
  obtain ⟨entries⟩ := counts
  cases entries with
  | nil => rfl
  | cons first rest =>
    show Option.map _ (rest.foldl _ (some first)) = _
    rw [foldl_first_eq_foldl_last (fun best entry => (apply_ite some _ _ _).symm) h]
    rfl

namespace FileSet

/-! ## Groups -/

theorem get?_foldl_groups (files : List SourceFile) (groups : Table Language (List SourceFile))
    (l : Language) :
    (files.foldl (fun groups file =>
      groups.insert file.language ((groups.get? file.language).getD [] ++ [file])) groups).get? l =
        if (files.filter fun f => f.language = l).isEmpty then groups.get? l
        else some ((groups.get? l).getD [] ++ files.filter fun f => f.language = l) := by
  induction files generalizing groups with
  | nil => rfl
  | cons file rest ih =>
    rw [List.foldl_cons, ih]
    by_cases hl : file.language = l
    · subst hl
      by_cases hrest : (rest.filter fun f => f.language = file.language) = [] <;> simp [hrest]
    · rw [Table.get?_insert_of_ne groups (Ne.symm hl)]
      simp [hl]

/-- The group of a language holds its files, and a language without files has none. -/
theorem get?_groups (set : FileSet) (l : Language) :
    set.groups.get? l = if (set.ofLanguage l).isEmpty then none else some (set.ofLanguage l) := by
  rw [groups, get?_foldl_groups]
  rfl

theorem ascending_groups (set : FileSet) : set.groups.Ascending :=
  List.foldlRecOn _ _ Table.ascending_empty fun _ h _ _ => Table.ascending_insert h _ _

/-- The languages that occur in a set. -/
def languages (set : FileSet) : List Language :=
  Language.all.filter fun l => !(set.ofLanguage l).isEmpty

/-- A table that has something for each language that occurs. -/
theorem eq_of_get?_languages {ν : Type} (set : FileSet) {t : Table Language ν} (h : t.Ascending)
    (f : Language → ν)
    (hget : ∀ l, t.get? l = if (set.ofLanguage l).isEmpty then none else some (f l)) :
    t = ⟨set.languages.map fun l => (l, f l)⟩ := by
  have hascending : (⟨set.languages.map fun l => (l, f l)⟩ : Table Language ν).Ascending :=
    List.pairwise_map.2 (Language.pairwise_all.filter _)
  refine Table.ext_of_ascending h hascending fun l => ?_
  ext value
  rw [hget, Table.get?_eq_some_iff hascending, List.mem_map]
  simp only [Prod.mk.injEq, languages, List.mem_filter, Language.mem_all, true_and]
  by_cases hempty : (set.ofLanguage l).isEmpty = true
  · simp [hempty]
  · simp [hempty]

theorem groups_eq (set : FileSet) :
    set.groups = ⟨set.languages.map fun l => (l, set.ofLanguage l)⟩ :=
  set.eq_of_get?_languages set.ascending_groups _ set.get?_groups

theorem languageCounts_eq (set : FileSet) :
    set.languageCounts = ⟨set.languages.map fun l => (l, (set.ofLanguage l).length)⟩ := by
  refine set.eq_of_get?_languages (Table.ascending_tally _) _ fun l => ?_
  have hcount : (set.files.map (·.language)).count l = (set.ofLanguage l).length := by
    rw [List.count, List.countP_map, List.countP_eq_length_filter]
    exact congrArg List.length (List.filter_congr fun f _ => Bool.beq_eq_decide_eq _ _)
  have hmem : l ∈ set.files.map (·.language) ↔ ¬ (set.ofLanguage l).isEmpty = true := by
    rw [← List.count_pos_iff, hcount, List.length_pos_iff, List.isEmpty_iff]
  show (Table.tally _).get? l = _
  rw [Table.get?_tally, hcount]
  by_cases h : (set.ofLanguage l).isEmpty = true <;> simp [hmem, h]

/-- The files language by language. -/
theorem flatMap_ofLanguage_perm (set : FileSet) :
    (Language.all.flatMap set.ofLanguage).Perm set.files := by
  classical
  rw [List.perm_iff_count]
  intro f
  have hcount : ∀ l, l ≠ f.language → l ∈ Language.all → (set.ofLanguage l).count f = 0 := by
    intro l hl _
    refine List.count_eq_zero_of_not_mem fun hmem => hl ?_
    exact (of_decide_eq_true (List.mem_filter.1 hmem).2 : f.language = l).symm
  have hown : (set.ofLanguage f.language).count f = set.files.count f :=
    List.count_filter (by simp)
  rw [List.count_flatMap,
    List.sum_map_eq_nsmul_single f.language (List.count f ∘ set.ofLanguage) hcount,
    List.count_eq_one_of_mem Language.nodup_all (Language.mem_all _), one_nsmul]
  exact hown

/-- What the groups and the counts of a set say of its files. -/
structure Grouped (set : FileSet) : Prop where
  /-- The groups come in the order of the languages, and none of them is empty. -/
  ascending : set.groups.Ascending
  nonempty : ∀ files ∈ set.groups.values, files ≠ []
  /-- A file is in one group, as often as it is in the set, … -/
  partition : set.groups.values.flatten.Perm set.files
  /-- … and that is the group of its language, … -/
  language : ∀ l files, set.groups.get? l = some files → ∀ f ∈ files, f.language = l
  /-- … in which the files keep their order. -/
  sublist : ∀ files ∈ set.groups.values, files.Sublist set.files
  members : ∀ l, set.ofLanguage l = (set.groups.get? l).getD []
  sizes : ∀ l, set.languageCounts.get? l = (set.groups.get? l).map List.length

theorem grouped (set : FileSet) : set.Grouped where
  ascending := set.ascending_groups
  nonempty := by
    intro files hfiles
    rw [groups_eq, Table.values, List.map_map, List.mem_map] at hfiles
    obtain ⟨l, hl, rfl⟩ := hfiles
    simpa using (List.mem_filter.1 hl).2
  partition := by
    have hvalues : set.groups.values =
        (Language.all.map set.ofLanguage).filter fun files => !files.isEmpty := by
      rw [groups_eq, Table.values, List.map_map, List.filter_map]
      rfl
    rw [hvalues, List.flatten_filter_not_isEmpty, ← List.flatMap_def]
    exact set.flatMap_ofLanguage_perm
  language := by
    intro l files hfiles f hf
    rw [get?_groups, Option.ite_none_left_eq_some] at hfiles
    obtain ⟨-, heq⟩ := hfiles
    cases heq
    exact of_decide_eq_true (List.mem_filter.1 hf).2
  sublist := by
    intro files hfiles
    rw [groups_eq, Table.values, List.map_map, List.mem_map] at hfiles
    obtain ⟨l, -, rfl⟩ := hfiles
    exact List.filter_sublist
  members := by
    intro l
    rw [get?_groups]
    cases h : set.ofLanguage l <;> rfl
  sizes := by
    intro l
    have hascending : set.languageCounts.Ascending := Table.ascending_tally _
    ext n
    rw [get?_groups, Table.get?_eq_some_iff hascending, languageCounts_eq]
    cases hfiles : set.ofLanguage l with
    | nil => simp [languages, hfiles]
    | cons f rest =>
      have hl : l ∈ set.languages := List.mem_filter.2 ⟨Language.mem_all l, by simp [hfiles]⟩
      simpa [hfiles] using fun _ => hl

/-! ## The language with the most files -/

/-- The language has files, none has more, and none before it has as many. -/
structure IsPrimary (set : FileSet) (l : Language) : Prop where
  occurs : set.ofLanguage l ≠ []
  most : ∀ other, (set.ofLanguage other).length ≤ (set.ofLanguage l).length
  first : ∀ other, (set.ofLanguage other).length = (set.ofLanguage l).length →
    (compare l other).isLE

theorem mem_languages_iff {set : FileSet} {l : Language} :
    l ∈ set.languages ↔ set.ofLanguage l ≠ [] := by
  simp [languages, Language.mem_all]

/-- **The primary language of a set** is the one with the most files, the first of several. -/
theorem primaryLanguage?_eq_some_iff (set : FileSet) (l : Language) :
    set.primaryLanguage? = some l ↔ set.IsPrimary l := by
  have hgreatest : set.primaryLanguage? = some l ↔ l ∈ set.languages ∧ ∀ other ∈ set.languages,
      (compareCounts (other, (set.ofLanguage other).length)
        (l, (set.ofLanguage l).length)).isLE := by
    rw [primaryLanguage?, languageCounts_eq, Option.map_eq_some_iff]
    simp only [lastGreatest?_eq_some_iff, List.forall_mem_map]
    constructor
    · rintro ⟨_, ⟨hmem, hmost⟩, rfl⟩
      obtain ⟨other, hother, rfl⟩ := List.mem_map.1 hmem
      exact ⟨hother, hmost⟩
    · rintro ⟨hl, hmost⟩
      exact ⟨_, ⟨List.mem_map_of_mem hl, hmost⟩, rfl⟩
  rw [hgreatest, mem_languages_iff]
  simp only [isLE_compareCounts_iff, mem_languages_iff]
  constructor
  · rintro ⟨hl, hmost⟩
    have hpos : 0 < (set.ofLanguage l).length := List.length_pos_iff.2 hl
    refine ⟨hl, fun other => ?_, fun other hcount => ?_⟩
    · by_cases hother : set.ofLanguage other = []
      · rw [hother, List.length_nil]
        omega
      · have := hmost other hother
        omega
    · have hother : set.ofLanguage other ≠ [] := List.length_pos_iff.1 (by omega)
      rcases hmost other hother with hless | ⟨-, hle⟩
      · omega
      · exact hle
  · rintro ⟨hl, hmost, hfirst⟩
    refine ⟨hl, fun other _ => ?_⟩
    rcases Nat.lt_or_eq_of_le (hmost other) with hless | heq
    · exact .inl hless
    · exact .inr ⟨heq, hfirst other heq⟩

theorem primaryLanguage?_eq_none_iff (set : FileSet) :
    set.primaryLanguage? = none ↔ set.files = [] := by
  rw [primaryLanguage?, languageCounts_eq, Option.map_eq_none_iff, lastGreatest?_eq_none_iff,
    List.map_eq_nil_iff]
  constructor
  · intro h
    refine List.eq_nil_iff_forall_not_mem.2 fun f hf => ?_
    have hmem : f ∈ set.ofLanguage f.language := List.mem_filter.2 ⟨hf, by simp⟩
    have hoccurs := mem_languages_iff.2 (List.ne_nil_of_mem hmem)
    rw [h] at hoccurs
    cases hoccurs
  · intro h
    refine List.eq_nil_iff_forall_not_mem.2 fun l hl => mem_languages_iff.1 hl ?_
    rw [ofLanguage, h, List.filter_nil]

end FileSet

/-! ## The shares of a profile -/

namespace Profile

/-- The numbers of files that a profile has for its languages. -/
def filesByLanguage {K : Type} (profile : Profile K) : Table Language Nat :=
  ⟨profile.languages.entries.map fun (l, share) => (l, share.files)⟩

theorem filesByLanguage_ofMetrics {K : Type} [Scalar K] (name : String)
    (advanced : AdvancedMetrics K) (coverage : Coverage) (weights : Weights K)
    {metrics : List (LanguageMetrics K)}
    (h : (ranked metrics).Pairwise fun a b => compare a.language b.language = .lt) :
    (ofMetrics name metrics advanced coverage weights).filesByLanguage =
      ⟨(ranked metrics).map fun m => (m.language, m.fileCount)⟩ := by
  have hshares : (sharesOf (ranked metrics)).entries.map (fun (l, share) => (l, share.files)) =
      (ranked metrics).map fun m => (m.language, m.fileCount) := by
    unfold sharesOf
    rw [Table.ofList_of_ascending (List.pairwise_map.2 h), List.map_map]
    rfl
  unfold ofMetrics filesByLanguage
  simp only
  split
  · next hempty =>
    rw [List.isEmpty_iff.1 hempty]
    rfl
  · exact congrArg Table.mk hshares

section

variable {set : FileSet} {work : Work} (files : work.files.map (·.1) = set.files)
  (inTime : ∀ entry ∈ work.files, entry.2 = false)

include files inTime

/-- The facts of a set all of whose files were analyzed in time. -/
theorem files_batch_inTime [Python.Grammar] :
    work.batch.files = set.files.map SourceFile.facts := by
  have hall : work.files.filter (fun entry => !entry.2) = work.files :=
    List.filter_eq_self.2 fun entry hentry => by simp [inTime entry hentry]
  rw [Work.batch_eq, Batch.ofFiles_eq, ← files, List.map_map]
  show (work.files.filter _).map _ = _
  rw [hall]
  rfl

theorem length_groupOf_batch [Python.Grammar] (l : Language) :
    (groupOf work.batch.inOrder.files l).length = (set.ofLanguage l).length := by
  have hperm : work.batch.inOrder.files.Perm (set.files.map SourceFile.facts) := by
    rw [← files_batch_inTime files inTime]
    exact List.mergeSort_perm _ _
  rw [groupOf, (hperm.filter _).length_eq, List.filter_map, List.length_map]
  refine congrArg List.length (List.filter_congr fun f _ => ?_)
  simp [SourceFile.language_facts]

end

section

variable {K : Type} [Scalar K] (settings : Settings K) (name : String) (coverage : Coverage)
  {set : FileSet} {work : Work} (files : work.files.map (·.1) = set.files)
  (inTime : ∀ entry ∈ work.files, entry.2 = false)

include files inTime

/-- **The shares of a profile count the files of the set**, if all of them were analyzed. -/
theorem filesByLanguage_ofBatch [Python.Grammar] :
    (ofBatch settings name coverage work.batch).filesByLanguage = set.languageCounts := by
  have hlength := length_groupOf_batch files inTime
  have hlanguages : languagesIn work.batch.inOrder.files = set.languages := by
    refine List.filter_congr fun l _ => ?_
    rw [Bool.eq_iff_iff, Bool.not_eq_true', Bool.not_eq_true', List.isEmpty_eq_false_iff,
      List.isEmpty_eq_false_iff, ← List.length_pos_iff, ← List.length_pos_iff, hlength]
  have hranked := ranked_metricsOf settings.thresholds work.batch.inOrder.files
  have hpairwise := pairwise_metricsOf settings.thresholds work.batch.inOrder.files
  rw [← hranked] at hpairwise
  unfold ofBatch
  simp only
  rw [filesByLanguage_ofMetrics _ _ _ _ hpairwise, hranked, metricsOf_eq, List.map_map,
    FileSet.languageCounts_eq, ← hlanguages]
  refine congrArg Table.mk (List.map_congr_left fun l _ => ?_)
  exact congrArg (Prod.mk l) (hlength l)

/-- **The primary language.** A set whose files were all analyzed, however the work was split, is
put into groups by language; it and its profile have the same primary language, which is the one
with the most files, the first of several. -/
theorem primaryLanguage?_ofBatch [Python.Grammar] :
    set.Grouped ∧
      (ofBatch settings name coverage work.batch).primaryLanguage? = set.primaryLanguage? ∧
      (∀ l, set.primaryLanguage? = some l ↔ set.IsPrimary l) ∧
      (set.primaryLanguage? = none ↔ set.files = []) := by
  refine ⟨set.grouped, ?_, set.primaryLanguage?_eq_some_iff, set.primaryLanguage?_eq_none_iff⟩
  have hcounts := filesByLanguage_ofBatch settings name coverage files inTime
  have hprofile : (ofBatch settings name coverage work.batch).primaryLanguage? =
      (ofBatch settings name coverage work.batch).filesByLanguage.greatest? := rfl
  rw [hprofile, hcounts]
  exact greatest?_eq_lastGreatest? (Table.ascending_tally _)

end

/-- Two files of Ruby and two of Go, worked on in two parts: Go comes first. -/
theorem primaryLanguage?_ofBatch_tie :
    let file (path : String) (l : Language) : SourceFile := ⟨⟨path⟩, l, ""⟩
    let set : FileSet :=
      { files := [file "a.rb" .ruby, file "b.go" .go, file "c.rb" .ruby, file "d.go" .go] }
    let work : Work :=
      .both (.part [(file "a.rb" .ruby, false)])
        (.part [(file "b.go" .go, false), (file "c.rb" .ruby, false), (file "d.go" .go, false)])
    (work.files.map (·.1) = set.files ∧ ∀ entry ∈ work.files, entry.2 = false) ∧
      (ofBatch (.standard : Settings Float) "acme/api" {} work.batch).primaryLanguage? =
        some .go ∧ set.IsPrimary .go := by
  intro file set work
  have hfiles : work.files.map (·.1) = set.files := rfl
  have hinTime : ∀ entry ∈ work.files, entry.2 = false := by decide
  have hset : set.primaryLanguage? = some .go := by decide
  obtain ⟨-, hprofile, hprimary, -⟩ :=
    primaryLanguage?_ofBatch (.standard : Settings Float) "acme/api" {} hfiles hinTime
  exact ⟨⟨hfiles, hinTime⟩, hprofile.trans hset, (hprimary .go).1 hset⟩

end Profile

end Affinity
