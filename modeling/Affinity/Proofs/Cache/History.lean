import Mathlib.Data.List.Induction
import Affinity.Proofs.Order.Lawful
import Affinity.Proofs.Table.Laws

/-!
# What a cache holds after any use

A cache is used step by step: something is fetched through it, looked up in it or dropped from it.
What it holds under a key depends only on the steps that concern this key: the first fetch after the
key was last dropped fills the place, and what is filled stays.

* `fetch_deliveries` — what a fetch gives, from what is held under the key of its source.
* `get?_after` — what is held under a key after a sequence of steps.
-/

namespace Affinity

/-- The key under which the files of a source are kept, if it can tell its revision. -/
def Source.key? (source : Source) : Option CacheKey :=
  source.revision.map (CacheKey.mk source.id)

/-- One use of a cache. -/
inductive CacheStep where
  | fetch (source : Source)
  | get (key : CacheKey)
  | invalidate (key : CacheKey)

/-- The cache after a step. -/
def CacheStep.run (cache : Cache) : CacheStep → Cache
  | fetch source => (cache.fetch source).cache
  | get _ => cache
  | invalidate key => cache.invalidate key

/-- What is held under a key after a step, given what was held before it. -/
def CacheStep.held (key : CacheKey) (before : Option (List Delivery)) :
    CacheStep → Option (List Delivery)
  | fetch source =>
    if source.key? = some key then before.or source.deliveries.toOption else before
  | get _ => before
  | invalidate dropped => if dropped = key then none else before

namespace Cache

/-- The cache after some steps, the first of which finds it empty. -/
def after (steps : List CacheStep) : Cache := steps.foldl CacheStep.run {}

/-- What some steps leave under a key. -/
def heldAfter (steps : List CacheStep) (key : CacheKey) : Option (List Delivery) :=
  steps.foldl (fun before step => step.held key before) none

/-! ## Single steps -/

/-- A fetch gives what is held under the key of its source, and asks the source if nothing is. -/
theorem fetch_deliveries (cache : Cache) (source : Source) :
    (cache.fetch source).deliveries =
      match source.key?.bind cache.get? with
      | some files => .ok files
      | none => source.deliveries := by
  rw [fetch, Source.key?]
  cases source.revision with
  | none => rfl
  | some revision =>
    cases h : cache.get? ⟨source.id, revision⟩ with
    | some files => simp [h]
    | none => cases hd : source.deliveries <;> simp [h]

/-- A fetch fills the place of its key if it was empty and the source has an answer. -/
theorem get?_fetch (cache : Cache) (source : Source) (key : CacheKey) :
    (cache.fetch source).cache.get? key =
      if source.key? = some key then (cache.get? key).or source.deliveries.toOption
      else cache.get? key := by
  rw [fetch, Source.key?]
  cases source.revision with
  | none => simp
  | some revision =>
    simp only [Option.map_some, Option.some.injEq]
    cases h : cache.get? ⟨source.id, revision⟩ with
    | some files =>
      by_cases hk : CacheKey.mk source.id revision = key
      · subst hk
        simp [h]
      · simp [hk]
    | none =>
      cases source.deliveries with
      | error e => simp [Except.toOption]
      | ok files =>
        by_cases hk : CacheKey.mk source.id revision = key
        · subst hk
          simp [h, Except.toOption]
        · simp [hk, Table.get?_insert_of_ne cache (Ne.symm hk)]

theorem ascending_invalidate {cache : Cache} (h : cache.Ascending) (key : CacheKey) :
    (cache.invalidate key).Ascending :=
  List.Pairwise.filter _ h

/-- What is dropped is held no longer, and nothing else changes. -/
theorem get?_invalidate {cache : Cache} (h : cache.Ascending) (dropped key : CacheKey) :
    (cache.invalidate dropped).get? key = if dropped = key then none else cache.get? key := by
  ext files
  rw [Table.get?_eq_some_iff (ascending_invalidate h dropped)]
  by_cases hk : dropped = key
  · simp [invalidate, hk]
  · simp [invalidate, hk, Ne.symm hk, Table.get?_eq_some_iff h]

theorem ascending_run {cache : Cache} (h : cache.Ascending) (step : CacheStep) :
    (step.run cache).Ascending := by
  cases step with
  | get key => exact h
  | invalidate key => exact ascending_invalidate h key
  | fetch source =>
    simp only [CacheStep.run, fetch]
    split
    · exact h
    · split
      · exact h
      · split
        · exact Table.ascending_insert h _ _
        · exact h

theorem get?_run {cache : Cache} (h : cache.Ascending) (step : CacheStep) (key : CacheKey) :
    (step.run cache).get? key = step.held key (cache.get? key) := by
  cases step with
  | fetch source => exact get?_fetch cache source key
  | get other => rfl
  | invalidate dropped => exact get?_invalidate h dropped key

/-! ## Sequences of steps -/

theorem ascending_after (steps : List CacheStep) : (after steps).Ascending := by
  induction steps using List.reverseRecOn with
  | nil => exact Table.ascending_empty
  | append_singleton steps step ih =>
    rw [after, List.foldl_append]
    exact ascending_run ih step

theorem heldAfter_concat (steps : List CacheStep) (step : CacheStep) (key : CacheKey) :
    heldAfter (steps ++ [step]) key = step.held key (heldAfter steps key) := by
  simp [heldAfter]

/-- What a cache holds under a key is what the steps leave under it. -/
theorem get?_after (steps : List CacheStep) (key : CacheKey) :
    (after steps).get? key = heldAfter steps key := by
  induction steps using List.reverseRecOn with
  | nil => rfl
  | append_singleton steps step ih =>
    rw [heldAfter_concat, ← ih, after, List.foldl_append]
    exact get?_run (ascending_after steps) step key

/-- What is held stays until it is dropped. -/
theorem heldAfter_append {steps : List CacheStep} {key : CacheKey} {files : List Delivery}
    (h : heldAfter steps key = some files) (more : List CacheStep)
    (hkept : CacheStep.invalidate key ∉ more) : heldAfter (steps ++ more) key = some files := by
  induction more using List.reverseRecOn with
  | nil => simpa using h
  | append_singleton more step ih =>
    simp only [List.mem_append, List.mem_singleton, not_or] at hkept
    rw [← List.append_assoc, heldAfter_concat, ih hkept.1]
    cases step with
    | fetch source => by_cases hk : source.key? = some key <;> simp [CacheStep.held, hk]
    | get other => rfl
    | invalidate dropped =>
      have hne : dropped ≠ key := fun he => hkept.2 (by rw [he])
      simp [CacheStep.held, hne]

/-- What is held was delivered by a source with this key, and was not dropped since. -/
theorem exists_fetch_of_heldAfter {steps : List CacheStep} {key : CacheKey}
    {files : List Delivery} (h : heldAfter steps key = some files) :
    ∃ before source between, steps = before ++ .fetch source :: between ∧
      source.key? = some key ∧ source.deliveries = .ok files ∧
      CacheStep.invalidate key ∉ between := by
  induction steps using List.reverseRecOn with
  | nil => simp [heldAfter] at h
  | append_singleton steps step ih =>
    -- either the last step fills the place, or what is held was held before it
    have extend : heldAfter steps key = some files → step ≠ .invalidate key →
        ∃ before source between, steps ++ [step] = before ++ .fetch source :: between ∧
          source.key? = some key ∧ source.deliveries = .ok files ∧
          CacheStep.invalidate key ∉ between := by
      intro hs hstep
      obtain ⟨before, source, between, rfl, hkey, hfiles, hkept⟩ := ih hs
      exact ⟨before, source, between ++ [step], by simp, hkey, hfiles, by
        simp [hkept, Ne.symm hstep]⟩
    rw [heldAfter_concat] at h
    cases step with
    | get other => exact extend h (by simp)
    | invalidate dropped =>
      by_cases hk : dropped = key
      · simp [CacheStep.held, hk] at h
      · exact extend (by simpa [CacheStep.held, hk] using h) (by simp [hk])
    | fetch source =>
      by_cases hk : source.key? = some key
      · cases hb : heldAfter steps key with
        | some held =>
          refine extend ?_ (by simp)
          simpa [CacheStep.held, hk, hb] using h
        | none =>
          refine ⟨steps, source, [], rfl, hk, ?_, by simp⟩
          cases hd : source.deliveries <;> simp_all [CacheStep.held, Except.toOption]
      · exact extend (by simpa [CacheStep.held, hk] using h) (by simp)

end Cache

end Affinity
