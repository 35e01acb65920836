import Affinity.Proofs.Cache.History
import Affinity.Proofs.Finding.Counting

/-!
# When a cache asks a source

Through a cache a source is asked only if it cannot tell its revision or nothing is held under its
key. An answer is held from then on, so as long as the key is not dropped nobody is asked for it
again; a source that has no answer leaves everything as it was, and may be asked again. What is held
are the keys that were fetched and not dropped since.

* `asked_iff` — when a source is asked.
* `answers` — what is answered for a key while some steps are taken.
* `error_of_mem_dropLast_answers` — without a drop, every answer but the last is a failure.
* `fetchedSince_iff` — the keys that were fetched and not dropped since are those that are held.
* `economical_after` — all of it, for any steps; `unreachable_asked_twice` is why a source that
  fails, or cannot tell its revision, has to be excepted.
-/

namespace Affinity

namespace Cache

/-! ## Single fetches -/

/-- A source is asked if it cannot tell its revision or nothing is held for this revision. -/
theorem asked_iff (cache : Cache) (source : Source) :
    (cache.fetch source).asked = true ↔
      source.revision = none ∨
        ∃ revision, source.revision = some revision ∧ cache.get? ⟨source.id, revision⟩ = none := by
  rw [fetch]
  cases source.revision with
  | none => simp
  | some revision =>
    cases h : cache.get? ⟨source.id, revision⟩ with
    | some files => simp [h]
    | none => cases source.deliveries <;> simp [h]

theorem asked_of_key {cache : Cache} {source : Source} {key : CacheKey}
    (hkey : source.key? = some key) :
    (cache.fetch source).asked = true ↔ cache.get? key = none := by
  obtain ⟨revision, hrevision, rfl⟩ := Option.map_eq_some_iff.1 hkey
  rw [asked_iff]
  simp [hrevision]

/-- Without a revision, or without an answer, a fetch changes nothing. -/
theorem cache_fetch_eq_self (cache : Cache) {source : Source}
    (h : source.revision = none ∨ ∃ e, source.deliveries = .error e) :
    (cache.fetch source).cache = cache := by
  rw [fetch]
  rcases h with hrevision | ⟨e, he⟩
  · rw [hrevision]
  · rw [he]
    cases source.revision with
    | none => rfl
    | some revision => cases h : cache.get? ⟨source.id, revision⟩ <;> simp [h]

/-- What a fetch gives is held afterwards under the key of the source. -/
theorem get?_fetch_of_ok (cache : Cache) {source : Source} {key : CacheKey}
    {files : List Delivery} (hkey : source.key? = some key)
    (hfiles : (cache.fetch source).deliveries = .ok files) :
    (cache.fetch source).cache.get? key = some files := by
  rw [fetch_deliveries, hkey, Option.bind_some] at hfiles
  rw [get?_fetch, if_pos hkey]
  cases h : cache.get? key with
  | some held =>
    rw [h] at hfiles
    rw [Except.ok.inj hfiles]
    rfl
  | none =>
    rw [h] at hfiles
    have hanswer : source.deliveries = .ok files := hfiles
    rw [hanswer]
    rfl

theorem get?_fetch_of_ne (cache : Cache) {source : Source} {other : CacheKey}
    (hne : source.key? ≠ some other) :
    (cache.fetch source).cache.get? other = cache.get? other := by
  rw [get?_fetch, if_neg hne]

theorem after_concat (steps : List CacheStep) (step : CacheStep) :
    after (steps ++ [step]) = step.run (after steps) := by
  rw [after, List.foldl_append]
  rfl

/-! ## Answers -/

/-- What a step makes some source answer that is asked for the files of a key. -/
def answer? (key : CacheKey) (cache : Cache) : CacheStep → Option (Except Error (List Delivery))
  | .fetch source =>
    if source.key? = some key ∧ (cache.fetch source).asked then some source.deliveries else none
  | .get _ => none
  | .invalidate _ => none

/-- All answers about a key while some steps are taken. -/
def answers (key : CacheKey) : Cache → List CacheStep → List (Except Error (List Delivery))
  | _, [] => []
  | cache, step :: rest => (answer? key cache step).toList ++ answers key (step.run cache) rest

section

variable {key : CacheKey} {cache : Cache} {step : CacheStep}

/-- What is held is not asked for. -/
theorem answer?_of_held {files : List Delivery} (h : cache.get? key = some files) :
    answer? key cache step = none := by
  cases step with
  | fetch source =>
    refine if_neg fun ⟨hkey, hasked⟩ => ?_
    rw [asked_of_key hkey, h] at hasked
    cases hasked
  | get other => rfl
  | invalidate dropped => rfl

/-- What is held stays as long as it is not dropped. -/
theorem get?_run_of_held (hcache : cache.Ascending) {files : List Delivery}
    (h : cache.get? key = some files) (hkept : step ≠ .invalidate key) :
    (step.run cache).get? key = some files := by
  rw [get?_run hcache, h]
  cases step with
  | fetch source => simp [CacheStep.held]
  | get other => rfl
  | invalidate dropped =>
    refine if_neg fun hkey => hkept ?_
    rw [hkey]

/-- A key for which files are answered is held afterwards. -/
theorem get?_run_of_answer {files : List Delivery}
    (h : answer? key cache step = some (.ok files)) :
    (step.run cache).get? key = some files := by
  cases step with
  | fetch source =>
    obtain ⟨⟨hkey, hasked⟩, hfiles⟩ := Option.ite_none_right_eq_some.1 h
    rw [Option.some.injEq] at hfiles
    rw [asked_of_key hkey] at hasked
    refine get?_fetch_of_ok cache hkey ?_
    rw [fetch_deliveries, hkey, Option.bind_some, hasked, hfiles]
  | get other => cases h
  | invalidate dropped => cases h

/-- Nobody is asked for what is held until it is dropped. -/
theorem answers_of_held (hcache : cache.Ascending) {files : List Delivery}
    (h : cache.get? key = some files) {steps : List CacheStep}
    (hkept : .invalidate key ∉ steps) : answers key cache steps = [] := by
  induction steps generalizing cache with
  | nil => rfl
  | cons step rest ih =>
    rw [List.mem_cons, not_or] at hkept
    rw [answers, answer?_of_held h,
      ih (ascending_run hcache step) (get?_run_of_held hcache h (Ne.symm hkept.1)) hkept.2]
    rfl

/-- **Until a key is dropped, every answer about it but the last is a failure.** -/
theorem error_of_mem_dropLast_answers (hcache : cache.Ascending) {steps : List CacheStep}
    (hkept : .invalidate key ∉ steps) {answer : Except Error (List Delivery)}
    (h : answer ∈ (answers key cache steps).dropLast) : ∃ e, answer = .error e := by
  induction steps generalizing cache with
  | nil => cases h
  | cons step rest ih =>
    rw [List.mem_cons, not_or] at hkept
    have hrest := fun h => ih (ascending_run hcache step) hkept.2 h
    rw [answers] at h
    cases hanswer : answer? key cache step with
    | none =>
      rw [hanswer] at h
      exact hrest h
    | some first =>
      rw [hanswer] at h
      cases first with
      | ok files =>
        -- the files are held from now on, so this is the last answer
        rw [answers_of_held (ascending_run hcache step) (get?_run_of_answer hanswer) hkept.2] at h
        cases h
      | error e =>
        by_cases hnil : answers key (step.run cache) rest = []
        · rw [hnil] at h
          cases h
        · simp only [Option.toList_some, List.singleton_append,
            List.dropLast_cons_of_ne_nil hnil, List.mem_cons] at h
          rcases h with rfl | h
          · exact ⟨e, rfl⟩
          · exact hrest h

/-- An answer about a key comes from a source with this key. -/
theorem exists_source_of_mem_answers {steps : List CacheStep}
    {answer : Except Error (List Delivery)} (h : answer ∈ answers key cache steps) :
    ∃ source, .fetch source ∈ steps ∧ source.key? = some key ∧ source.deliveries = answer := by
  induction steps generalizing cache with
  | nil => cases h
  | cons step rest ih =>
    rw [answers, List.mem_append, Option.mem_toList] at h
    rcases h with h | h
    · cases step with
      | fetch source =>
        obtain ⟨⟨hkey, -⟩, hanswer⟩ := Option.ite_none_right_eq_some.1 h
        exact ⟨source, List.mem_cons_self, hkey, Option.some.inj hanswer⟩
      | get other => cases h
      | invalidate dropped => cases h
    · obtain ⟨source, hmem, hsource⟩ := ih h
      exact ⟨source, List.mem_cons_of_mem _ hmem, hsource⟩

/-- Until a key is dropped, sources that have an answer are asked for it at most once. -/
theorem length_answers_le_one (hcache : cache.Ascending) {steps : List CacheStep}
    (hkept : .invalidate key ∉ steps)
    (hanswer : ∀ source, .fetch source ∈ steps → source.key? = some key →
      ∃ files, source.deliveries = .ok files) : (answers key cache steps).length ≤ 1 := by
  have hnone : (answers key cache steps).dropLast = [] := by
    rw [List.eq_nil_iff_forall_not_mem]
    intro answer hmem
    obtain ⟨e, rfl⟩ := error_of_mem_dropLast_answers hcache hkept hmem
    obtain ⟨source, hsource, hkey, hfailed⟩ :=
      exists_source_of_mem_answers (List.dropLast_subset _ hmem)
    obtain ⟨files, hfiles⟩ := hanswer source hsource hkey
    rw [hfailed] at hfiles
    cases hfiles
  have hlength := congrArg List.length hnone
  rw [List.length_dropLast, List.length_nil] at hlength
  omega

end

/-! ## What is held -/

/-- Some fetch with this key gave files, and the key was not dropped since. -/
def FetchedSince (steps : List CacheStep) (key : CacheKey) : Prop :=
  ∃ before source since, steps = before ++ .fetch source :: since ∧ source.key? = some key ∧
    (∃ files, ((after before).fetch source).deliveries = .ok files) ∧
    CacheStep.invalidate key ∉ since

/-- **What was fetched and not dropped since is held**, and nothing else. -/
theorem fetchedSince_iff (steps : List CacheStep) (key : CacheKey) :
    FetchedSince steps key ↔ ∃ files, (after steps).get? key = some files := by
  rw [get?_after]
  constructor
  · rintro ⟨before, source, since, rfl, hkey, ⟨files, hfiles⟩, hkept⟩
    have hheld : heldAfter (before ++ [.fetch source]) key = some files := by
      rw [← get?_after, after_concat]
      exact get?_fetch_of_ok (after before) hkey hfiles
    refine ⟨files, ?_⟩
    have hstays := heldAfter_append hheld since hkept
    rwa [List.append_assoc] at hstays
  · rintro ⟨files, hheld⟩
    obtain ⟨before, source, since, hsteps, hkey, hfiles, hkept⟩ :=
      exists_fetch_of_heldAfter hheld
    refine ⟨before, source, since, hsteps, hkey, ?_, hkept⟩
    rw [fetch_deliveries, hfiles]
    cases source.key?.bind (after before).get? with
    | some held => exact ⟨held, rfl⟩
    | none => exact ⟨files, rfl⟩

/-- A cache holds as many entries as there are keys that were fetched and not dropped since. -/
theorem encard_fetchedSince (steps : List CacheStep) :
    {key | FetchedSince steps key}.encard = (after steps).size := by
  have hascending := ascending_after steps
  have hset : {key | FetchedSince steps key} = {key | key ∈ (after steps).keys} := by
    ext key
    rw [Set.mem_ofPred_eq, fetchedSince_iff, Set.mem_ofPred_eq, Table.keys, List.mem_map]
    constructor
    · rintro ⟨files, hfiles⟩
      exact ⟨(key, files), (Table.get?_eq_some_iff hascending).1 hfiles, rfl⟩
    · rintro ⟨⟨_, files⟩, hmem, rfl⟩
      exact ⟨files, (Table.get?_eq_some_iff hascending).2 hmem⟩
  rw [hset, encard_of_nodup hascending.nodup_keys, Table.keys, List.length_map]
  rfl

/-! ## Any use of a cache -/

/-- What a cache that was used in some steps does in the next ones. -/
structure Economical (steps : List CacheStep) : Prop where
  /-- A source is asked exactly if it cannot tell its revision or nothing is held for it. -/
  asked_iff : ∀ source : Source, ((after steps).fetch source).asked = true ↔
    source.revision = none ∨ ∃ revision, source.revision = some revision ∧
      (after steps).get? ⟨source.id, revision⟩ = none
  /-- A fetch with a revision that gave files leaves them under its key … -/
  fills : ∀ (source : Source) (revision : Bytes) (files : List Delivery),
    source.revision = some revision → ((after steps).fetch source).deliveries = .ok files →
      (after (steps ++ [.fetch source])).get? ⟨source.id, revision⟩ = some files
  /-- … and nothing else. -/
  fillsOnly : ∀ (source : Source) (other : CacheKey), source.key? ≠ some other →
    (after (steps ++ [.fetch source])).get? other = (after steps).get? other
  /-- A fetch without a revision, or from a source without an answer, changes nothing. -/
  keeps : ∀ source : Source, source.revision = none ∨ (∃ e, source.deliveries = .error e) →
    after (steps ++ [.fetch source]) = after steps
  looksUp : ∀ key, after (steps ++ [.get key]) = after steps
  /-- A drop takes away what is held under its key and nothing else. -/
  drops : ∀ key other, (after (steps ++ [.invalidate key])).get? other =
    if key = other then none else (after steps).get? other
  /-- Until a key is dropped, sources with an answer are asked for it at most once … -/
  asksOnce : ∀ key more, .invalidate key ∉ more →
    (∀ source, .fetch source ∈ more → source.key? = some key →
      ∃ files, source.deliveries = .ok files) →
    (answers key (after steps) more).length ≤ 1
  /-- … and in any case nobody is asked any more who comes behind an answer. -/
  failsBefore : ∀ key more, .invalidate key ∉ more →
    ∀ answer ∈ (answers key (after steps) more).dropLast, ∃ e, answer = .error e
  /-- There is an entry for each key under which files were fetched and not dropped since. -/
  size : (after steps).size = {key | FetchedSince steps key}.encard

/-- **A cache asks no more than it must**, whatever was fetched, looked up and dropped before. -/
theorem economical_after (steps : List CacheStep) : Economical steps where
  asked_iff := asked_iff (after steps)
  fills source revision files hrevision hfiles := by
    have hkey : source.key? = some ⟨source.id, revision⟩ := by
      rw [Source.key?, hrevision]
      rfl
    rw [after_concat]
    exact get?_fetch_of_ok (after steps) hkey hfiles
  fillsOnly source other hne := by
    rw [after_concat]
    exact get?_fetch_of_ne (after steps) hne
  keeps source h := by
    rw [after_concat]
    exact cache_fetch_eq_self (after steps) h
  looksUp key := after_concat steps (.get key)
  drops key other := by
    rw [after_concat]
    exact get?_invalidate (ascending_after steps) key other
  asksOnce _ _ hkept hanswer := length_answers_le_one (ascending_after steps) hkept hanswer
  failsBefore _ _ hkept _ hanswer :=
    error_of_mem_dropLast_answers (ascending_after steps) hkept hanswer
  size := (encard_fetchedSince steps).symm

/-- Nothing is held after a fetch that failed, so that the source is asked again although its key
was not dropped. A source that cannot tell its revision is asked each time as well. -/
theorem unreachable_asked_twice :
    let missing : Source := ⟨"acme/api", some [1], .error (.fileNotFound "acme/api")⟩
    let undated : Source := ⟨"acme/api", none, .ok []⟩
    let key : CacheKey := ⟨"acme/api", [1]⟩
    let twice : List CacheStep := [.fetch missing, .fetch missing]
    missing.key? = some key ∧ .invalidate key ∉ twice ∧
      ¬ (answers key (after [.invalidate key]) twice).length ≤ 1 ∧
      (after [.fetch missing]).get? key = none ∧ (after [.fetch missing]).size = 0 ∧
      ((after [.fetch undated]).fetch undated).asked = true := by
  intro missing undated key twice
  have hanswers : (answers key (after [.invalidate key]) twice).length = 2 := by decide
  refine ⟨rfl, by simp [twice], ?_, rfl, rfl, rfl⟩
  rw [hanswers]
  decide

end Cache

end Affinity
