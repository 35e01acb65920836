import Affinity.Proofs.Cache.History
import Affinity.Proofs.Order.Sorting

/-!
# When a cache is transparent

A fetch through a cache should give what its source gives. The cache finds its entries by a digest
of the paths and contents of the files, one after the other in the order of the paths. Even a digest
without collisions does not tell two lists of files apart if their texts run together to the same
bytes, or if they hold the same files in different orders. So a run of fetches, look-ups and drops
is transparent exactly if no fetch finds the entry of another list of the same repository.

* `fetches_transparent_iff` — the runs in which every fetch gives what its source gives.
* `tellsApart_of_one_state` — a run that fetches one state of each repository is one of them.
* `revisionOf_perm` — the text of some files does not tell in which order they are.
* `shifted_boundary_hit` — a run in which a fetch gives the files of another state.
-/

namespace Affinity

/-- The source of files held in memory whose revision is a digest of their paths and contents. -/
def Source.ofDigest (digest : Bytes → Bytes) (id : String) (files : List RawFile) : Source :=
  { Source.ofFiles id files with revision := some (digest (revisionOf files)) }

theorem map_fetched_injective : Function.Injective (List.map Delivery.fetched) :=
  List.map_injective_iff.2 fun _ _ h => Delivery.fetched.inj h

theorem Source.ofDigest_inj {digest : Bytes → Bytes} {id other : String}
    {files others : List RawFile}
    (h : Source.ofDigest digest id files = .ofDigest digest other others) :
    id = other ∧ files = others :=
  ⟨congrArg Source.id h, map_fetched_injective (Except.ok.inj (congrArg Source.deliveries h))⟩

theorem Source.ofDigest_id (id : String) (files : List RawFile) :
    Source.ofDigest (fun text => text) id files = Source.ofFiles id files := rfl

namespace Cache

/-- The key under which files held in memory are kept. -/
def keyOf (digest : Bytes → Bytes) (id : String) (files : List RawFile) : CacheKey :=
  ⟨id, digest (revisionOf files)⟩

/-- Every fetch of the run gives what its source would have given at that moment. -/
def Transparent (steps : List CacheStep) : Prop :=
  ∀ before source later, steps = before ++ .fetch source :: later →
    ((after before).fetch source).deliveries = source.deliveries

/-- Every source of the run holds its files in memory and tells a digest of them. -/
def InMemory (digest : Bytes → Bytes) (steps : List CacheStep) : Prop :=
  ∀ source, .fetch source ∈ steps → ∃ id files, source = Source.ofDigest digest id files

/-- Whenever files of a repository are fetched, and then files with the same text that were not
dropped in between, they are the same files in the same order. -/
def TellsApart (digest : Bytes → Bytes) (steps : List CacheStep) : Prop :=
  ∀ before id old between new later,
    steps = before ++ .fetch (.ofDigest digest id old) ::
      (between ++ .fetch (.ofDigest digest id new) :: later) →
    .invalidate (keyOf digest id old) ∉ between →
    revisionOf old = revisionOf new → old = new

variable {digest : Bytes → Bytes} {steps : List CacheStep}

/-- A fetch of files held in memory gives what is held under their key, or else the files. -/
theorem fetch_ofDigest (steps : List CacheStep) (id : String) (files : List RawFile) :
    ((after steps).fetch (.ofDigest digest id files)).deliveries =
      .ok ((heldAfter steps (keyOf digest id files)).getD (files.map .fetched)) := by
  rw [fetch_deliveries, ← get?_after]
  cases h : (after steps).get? (keyOf digest id files) <;>
    simp_all [Source.key?, Source.ofDigest, Source.ofFiles, keyOf]

/-- What such a fetch gives is held under the key from then on. -/
theorem heldAfter_fetch (steps : List CacheStep) (id : String) (files : List RawFile) :
    heldAfter (steps ++ [.fetch (.ofDigest digest id files)]) (keyOf digest id files) =
      some ((heldAfter steps (keyOf digest id files)).getD (files.map .fetched)) := by
  rw [heldAfter_concat]
  cases heldAfter steps (keyOf digest id files) <;>
    simp [CacheStep.held, Source.key?, Source.ofDigest, Source.ofFiles, keyOf, Except.toOption]

/-- A fetch of files held in memory is transparent if nothing else is held under their key. -/
theorem fetch_ofDigest_eq_iff (steps : List CacheStep) (id : String) (files : List RawFile) :
    ((after steps).fetch (.ofDigest digest id files)).deliveries =
        (Source.ofDigest digest id files).deliveries ↔
      (heldAfter steps (keyOf digest id files)).getD (files.map .fetched) =
        files.map .fetched := by
  rw [fetch_ofDigest]
  exact ⟨Except.ok.inj, congrArg _⟩

/-- A run that fetches every repository in one state only tells all states apart. -/
theorem tellsApart_of_one_state
    (h : ∀ id old new, .fetch (.ofDigest digest id old) ∈ steps →
      .fetch (.ofDigest digest id new) ∈ steps → old = new) : TellsApart digest steps := by
  intro before id old between new later hsteps _ _
  exact h id old new (by simp [hsteps]) (by simp [hsteps])

/-- The text of some files does not depend on their order, unless different files have one path. -/
theorem revisionOf_perm {files others : List RawFile}
    (apart : ∀ a ∈ files, ∀ b ∈ files, compare a.path b.path = .eq → a = b)
    (h : files.Perm others) : revisionOf files = revisionOf others := by
  have : Std.TransCmp fun a b : RawFile => compare a.path b.path :=
    inferInstanceAs (Std.TransCmp (compareOn RawFile.path))
  rw [revisionOf, revisionOf, filesByPath, filesByPath, mergeSort_eq_of_perm h apart]

/-- **When a cache is transparent.** With a digest that has no collisions, every fetch of a run
gives what its source would give exactly if the run never fetches two different lists of files with
one text for one repository, unless the entry is dropped in between. -/
theorem fetches_transparent_iff (collisionFree : Function.Injective digest)
    (memory : InMemory digest steps) : Transparent steps ↔ TellsApart digest steps := by
  constructor
  · intro transparent before id old between new later hsteps hkept htext
    have hkey : keyOf digest id new = keyOf digest id old := by rw [keyOf, keyOf, htext]
    have hold := (fetch_ofDigest_eq_iff before id old).1 (transparent before _ _ hsteps)
    have hsplit : steps = (before ++ [.fetch (.ofDigest digest id old)] ++ between) ++
        .fetch (.ofDigest digest id new) :: later := by
      rw [hsteps]
      simp
    have hnew := (fetch_ofDigest_eq_iff _ id new).1 (transparent _ _ _ hsplit)
    -- the second fetch finds what the first one left
    have hheld := heldAfter_append (heldAfter_fetch before id old) between hkept
    rw [hold, ← hkey] at hheld
    rw [hheld] at hnew
    exact map_fetched_injective hnew
  · intro apart before source later hsteps
    obtain ⟨id, new, rfl⟩ := memory source (by simp [hsteps])
    rw [fetch_ofDigest_eq_iff]
    cases hheld : heldAfter before (keyOf digest id new) with
    | none => rfl
    | some found =>
      obtain ⟨earlier, filler, between, rfl, hkey, hfiles, hkept⟩ := exists_fetch_of_heldAfter hheld
      obtain ⟨other, old, rfl⟩ := memory filler (by simp [hsteps])
      obtain ⟨rfl, hrevision⟩ : other = id ∧ digest (revisionOf old) = digest (revisionOf new) :=
        CacheKey.mk.inj (Option.some.inj hkey)
      have hkeys : keyOf digest other old = keyOf digest other new := by
        rw [keyOf, keyOf, hrevision]
      have hsame : old = new := by
        refine apart earlier other old between new later ?_ (hkeys ▸ hkept)
          (collisionFree hrevision)
        rw [hsteps]
        simp
      rw [← hsame]
      exact (Except.ok.inj hfiles).symm

/-- A fetch, a look-up and a second fetch of the same files: the run fetches one state only, so it
is transparent. -/
theorem refetch_transparent :
    let digest : Bytes → Bytes := fun text => text
    let source := Source.ofDigest digest "acme/api" [⟨⟨"a.py"⟩, [120]⟩]
    let steps : List CacheStep := [.fetch source, .get ⟨"acme/api", []⟩, .fetch source]
    Function.Injective digest ∧ InMemory digest steps ∧ Transparent steps := by
  intro digest source steps
  have hmem : ∀ s, .fetch s ∈ steps → s = source := by
    intro s hs
    simpa [steps] using hs
  have injective : Function.Injective digest := fun _ _ h => h
  have memory : InMemory digest steps := fun s hs => ⟨_, _, hmem s hs⟩
  refine ⟨injective, memory, (fetches_transparent_iff injective memory).2 ?_⟩
  refine tellsApart_of_one_state fun id old new hold hnew => ?_
  exact (Source.ofDigest_inj ((hmem _ hold).trans (hmem _ hnew).symm)).2

/-- The texts of a file with a letter in it and of an empty file whose name ends in this letter run
together to the same bytes: the second fetch gives the file of the first one. -/
theorem shifted_boundary_hit :
    ¬ Transparent
      [.fetch (.ofFiles "acme/api" [⟨⟨"a.py"⟩, [120]⟩]),
        .fetch (.ofFiles "acme/api" [⟨⟨"a.pyx"⟩, []⟩])] := by
  intro transparent
  have h := transparent [.fetch (.ofFiles "acme/api" [⟨⟨"a.py"⟩, [120]⟩])]
    (.ofFiles "acme/api" [⟨⟨"a.pyx"⟩, []⟩]) [] rfl
  have hkey : keyOf (fun text => text) "acme/api" [⟨⟨"a.pyx"⟩, []⟩] =
      keyOf (fun text => text) "acme/api" [⟨⟨"a.py"⟩, [120]⟩] := by
    simp only [keyOf, revisionOf, filesByPath, List.mergeSort_singleton]
    decide +kernel
  have hheld : heldAfter [.fetch (.ofDigest (fun text => text) "acme/api" [⟨⟨"a.py"⟩, [120]⟩])]
      (keyOf (fun text => text) "acme/api" [⟨⟨"a.py"⟩, [120]⟩]) =
        some [.fetched ⟨⟨"a.py"⟩, [120]⟩] :=
    heldAfter_fetch [] "acme/api" [⟨⟨"a.py"⟩, [120]⟩]
  rw [← Source.ofDigest_id, ← Source.ofDigest_id, fetch_ofDigest_eq_iff, hkey, hheld] at h
  simp at h

end Cache

end Affinity
