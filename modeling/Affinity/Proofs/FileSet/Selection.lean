import Affinity.Proofs.Order.Lawful
import Affinity.Proofs.Order.Sorting

/-!
# The choice among files with one path

The files of one language are sorted by path, then by content, and of several files with one path
only the first is kept. Files are *rivals* if their paths have the same components; they are *tied*
if their contents are the same as well. Which file of tied ones is kept, and which of them are
repeated, is left to the order in which they came.

* `keptOf_append_repeatedOf_perm` — every file is either kept or repeated.
* `content_isLE_of_mem_keptOf` — a kept file is the first of its rivals by content.
* `mem_map_place_keptOf_iff` — which places the kept files have.
* `map_place_keptOf_eq_of_perm` — the places of the kept files do not depend on the order.
* `repeatedOf_swap` — of two tied files that are the first of their rivals the later one is
  repeated.
-/

namespace Affinity

/-- What decides the order of files: the components of the path, then the content. -/
def SourceFile.place (file : SourceFile) : List PathComponent × String :=
  (file.path.components, file.content)

/-- The order of places. -/
def comparePlaces (a b : List PathComponent × String) : Ordering :=
  (compare a.1 b.1).then (compare a.2 b.2)

instance : Std.TransCmp comparePlaces :=
  inferInstanceAs (Std.TransCmp (compareLex (compareOn Prod.fst) (compareOn Prod.snd)))

instance : Std.LawfulEqCmp comparePlaces where
  eq_of_compare {a b} h := by
    obtain ⟨hpath, hcontent⟩ := Ordering.then_eq_eq.1 h
    exact Prod.ext (Std.LawfulEqOrd.eq_of_compare hpath) (Std.LawfulEqOrd.eq_of_compare hcontent)

theorem byPathAndContent_eq_comparePlaces (a b : SourceFile) :
    byPathAndContent a b = comparePlaces a.place b.place := rfl

/-! ## Kept and repeated files -/

/-- The last kept file has the path of this one. -/
def repeats (last : Option Path) (file : SourceFile) : Bool :=
  last.any fun p => compare p file.path == .eq

theorem repeats_eq_true_iff {last : Option Path} {file : SourceFile} :
    repeats last file = true ↔ ∃ p, last = some p ∧ p.components = file.path.components := by
  cases last with
  | none => simp [repeats]
  | some p => simp [repeats, Path.compare_eq_iff]

theorem splitRepeats_cons_of_repeats {last : Option Path} {file : SourceFile}
    (h : repeats last file = true) (rest : List SourceFile) :
    splitRepeats last (file :: rest) =
      ((splitRepeats last rest).1, file :: (splitRepeats last rest).2) := if_pos h

theorem splitRepeats_cons_of_new {last : Option Path} {file : SourceFile}
    (h : ¬ repeats last file = true) (rest : List SourceFile) :
    splitRepeats last (file :: rest) =
      (file :: (splitRepeats (some file.path) rest).1, (splitRepeats (some file.path) rest).2) :=
  if_neg h

/-- **Every file is either kept or repeated.** -/
theorem splitRepeats_perm (last : Option Path) (files : List SourceFile) :
    ((splitRepeats last files).1 ++ (splitRepeats last files).2).Perm files := by
  induction files generalizing last with
  | nil => exact List.Perm.refl _
  | cons file rest ih =>
    by_cases h : repeats last file = true
    · rw [splitRepeats_cons_of_repeats h]
      exact List.perm_middle.trans ((ih last).cons file)
    · rw [splitRepeats_cons_of_new h]
      exact (ih (some file.path)).cons file

theorem mem_of_mem_kept {last : Option Path} {files : List SourceFile} {f : SourceFile}
    (h : f ∈ (splitRepeats last files).1) : f ∈ files :=
  (splitRepeats_perm last files).mem_iff.1 (List.mem_append_left _ h)

/-! ## The kept file among its rivals -/

/-- The files stand in the order in which they compete. -/
abbrev Competing (files : List SourceFile) : Prop :=
  files.Pairwise fun a b => (byPathAndContent a b).isLE

theorem path_isLE_of_byPathAndContent {a b : SourceFile} (h : (byPathAndContent a b).isLE) :
    (compare a.path b.path).isLE := by
  rw [byPathAndContent] at h
  cases hc : compare a.path b.path <;> simp_all

theorem content_isLE_of_byPathAndContent {a b : SourceFile} (h : (byPathAndContent a b).isLE)
    (hpath : a.path.components = b.path.components) : (compare a.content b.content).isLE := by
  rw [byPathAndContent, Path.compare_eq_iff.2 hpath] at h
  exact h

/-- Files with the path of the last kept one are not kept. -/
theorem path_ne_of_mem_kept {p : Path} {files : List SourceFile} (hsorted : Competing files)
    (hlast : ∀ c ∈ files, (compare p c.path).isLE) {f : SourceFile}
    (hf : f ∈ (splitRepeats (some p) files).1) : p.components ≠ f.path.components := by
  induction files with
  | nil => cases hf
  | cons file rest ih =>
    obtain ⟨hfirst, hrest⟩ := List.pairwise_cons.1 hsorted
    have hlast' : ∀ c ∈ rest, (compare p c.path).isLE :=
      fun c hc => hlast c (List.mem_cons_of_mem _ hc)
    by_cases h : repeats (some p) file = true
    · rw [splitRepeats_cons_of_repeats h] at hf
      exact ih hrest hlast' hf
    · rw [splitRepeats_cons_of_new h] at hf
      have hne : p.components ≠ file.path.components :=
        fun he => h (repeats_eq_true_iff.2 ⟨p, rfl, he⟩)
      rcases List.mem_cons.1 hf with rfl | hmem
      · exact hne
      · -- `file` lies between `p` and `f`, so the path of `f` cannot go back to that of `p`.
        intro he
        have hge : (compare file.path f.path).isLE :=
          path_isLE_of_byPathAndContent (hfirst f (mem_of_mem_kept hmem))
        have hle : (compare p file.path).isLE := hlast file (List.mem_cons_self ..)
        rw [← Std.TransCmp.congr_right (Path.compare_eq_iff.2 he)] at hge
        exact hne (Path.compare_eq_iff.1 (Std.OrientedCmp.isLE_antisymm hle hge))

/-- **A kept file is the first of its rivals by content.** -/
theorem content_isLE_of_mem_kept {last : Option Path} {files : List SourceFile}
    (hsorted : Competing files) {f : SourceFile} (hf : f ∈ (splitRepeats last files).1)
    (hlast : ∀ p, last = some p → ∀ c ∈ files, (compare p c.path).isLE) {c : SourceFile}
    (hc : c ∈ files) (hpath : c.path.components = f.path.components) :
    (compare f.content c.content).isLE := by
  induction files generalizing last with
  | nil => cases hc
  | cons file rest ih =>
    obtain ⟨hfirst, hrest⟩ := List.pairwise_cons.1 hsorted
    by_cases h : repeats last file = true
    · rw [splitRepeats_cons_of_repeats h] at hf
      obtain ⟨p, rfl, hp⟩ := repeats_eq_true_iff.1 h
      have hlast' : ∀ c ∈ rest, (compare p c.path).isLE :=
        fun c hc => hlast p rfl c (List.mem_cons_of_mem _ hc)
      rcases List.mem_cons.1 hc with rfl | hmem
      · exact absurd (hp.trans hpath) (path_ne_of_mem_kept hrest hlast' hf)
      · refine ih hrest hf ?_ hmem
        intro q hq
        cases hq
        exact hlast'
    · rw [splitRepeats_cons_of_new h] at hf
      have hnext : ∀ c ∈ rest, (compare file.path c.path).isLE :=
        fun c hc => path_isLE_of_byPathAndContent (hfirst c hc)
      rcases List.mem_cons.1 hf with rfl | hkept
      · rcases List.mem_cons.1 hc with rfl | hmem
        · exact Std.ReflCmp.isLE_rfl
        · exact content_isLE_of_byPathAndContent (hfirst c hmem) hpath.symm
      · rcases List.mem_cons.1 hc with rfl | hmem
        · exact absurd hpath (path_ne_of_mem_kept hrest hnext hkept)
        · refine ih hrest hkept ?_ hmem
          intro q hq
          cases hq
          exact hnext

/-- The paths of the kept files strictly ascend. -/
theorem pairwise_kept {last : Option Path} {files : List SourceFile} (hsorted : Competing files) :
    (splitRepeats last files).1.Pairwise fun a b => compare a.path b.path = .lt := by
  induction files generalizing last with
  | nil => exact List.Pairwise.nil
  | cons file rest ih =>
    obtain ⟨hfirst, hrest⟩ := List.pairwise_cons.1 hsorted
    by_cases h : repeats last file = true
    · rw [splitRepeats_cons_of_repeats h]
      exact ih hrest
    · rw [splitRepeats_cons_of_new h]
      have hnext : ∀ c ∈ rest, (compare file.path c.path).isLE :=
        fun c hc => path_isLE_of_byPathAndContent (hfirst c hc)
      refine List.pairwise_cons.2 ⟨fun g hg => ?_, ih hrest⟩
      have hle : (compare file.path g.path).isLE := hnext g (mem_of_mem_kept hg)
      have hne : compare file.path g.path ≠ .eq :=
        fun he => path_ne_of_mem_kept hrest hnext hg (Path.compare_eq_iff.1 he)
      exact (Ordering.isLE_iff_eq_lt_or_eq_eq.1 hle).resolve_right hne

/-- Every file has a kept rival, or else the path of the last kept one. -/
theorem exists_kept_rival (last : Option Path) {files : List SourceFile} {f : SourceFile}
    (hf : f ∈ files) :
    (∃ p, last = some p ∧ p.components = f.path.components) ∨
      ∃ g ∈ (splitRepeats last files).1, g.path.components = f.path.components := by
  induction files generalizing last with
  | nil => cases hf
  | cons file rest ih =>
    by_cases h : repeats last file = true
    · rw [splitRepeats_cons_of_repeats h]
      rcases List.mem_cons.1 hf with rfl | hmem
      · exact .inl (repeats_eq_true_iff.1 h)
      · exact ih _ hmem
    · rw [splitRepeats_cons_of_new h]
      rcases List.mem_cons.1 hf with rfl | hmem
      · exact .inr ⟨f, List.mem_cons_self .., rfl⟩
      · rcases ih (some file.path) hmem with ⟨p, hp, hpath⟩ | ⟨g, hg, hpath⟩
        · cases hp
          exact .inr ⟨file, List.mem_cons_self .., hpath⟩
        · exact .inr ⟨g, List.mem_cons_of_mem _ hg, hpath⟩

/-! ## Places decide -/

theorem repeats_congr {p q : Option Path} {f g : SourceFile}
    (hlast : p.map Path.components = q.map Path.components) (hplace : f.place = g.place) :
    repeats p f = repeats q g := by
  have hfg : f.path.components = g.path.components := congrArg Prod.fst hplace
  rw [Bool.eq_iff_iff, repeats_eq_true_iff, repeats_eq_true_iff]
  cases p <;> cases q <;> simp_all

/-- The places of the kept files depend on the places of the given ones only. -/
theorem map_place_kept_congr {p q : Option Path} {l m : List SourceFile}
    (hlast : p.map Path.components = q.map Path.components)
    (hplace : l.map SourceFile.place = m.map SourceFile.place) :
    (splitRepeats p l).1.map SourceFile.place = (splitRepeats q m).1.map SourceFile.place := by
  induction l generalizing p q m with
  | nil =>
    rw [List.map_eq_nil_iff.1 hplace.symm]
    rfl
  | cons f l ih =>
    obtain ⟨g, m, rfl, hfg, hrest⟩ := List.map_eq_cons_iff.1 hplace.symm
    have hnext : (some f.path).map Path.components = (some g.path).map Path.components :=
      congrArg some (congrArg Prod.fst hfg).symm
    by_cases h : repeats p f = true
    · have h' : repeats q g = true := repeats_congr hlast hfg.symm ▸ h
      rw [splitRepeats_cons_of_repeats h, splitRepeats_cons_of_repeats h']
      exact ih hlast hrest.symm
    · have h' : ¬ repeats q g = true := repeats_congr hlast hfg.symm ▸ h
      rw [splitRepeats_cons_of_new h, splitRepeats_cons_of_new h', List.map_cons, List.map_cons,
        hfg, ih hnext hrest.symm]

/-! ## Tied files -/

theorem splitRepeats_congr_last {p q : Option Path}
    (hlast : p.map Path.components = q.map Path.components) (files : List SourceFile) :
    splitRepeats p files = splitRepeats q files := by
  induction files generalizing p q with
  | nil => rfl
  | cons f rest ih =>
    by_cases h : repeats p f = true
    · have h' : repeats q f = true := repeats_congr hlast rfl ▸ h
      rw [splitRepeats_cons_of_repeats h, splitRepeats_cons_of_repeats h', ih hlast]
    · have h' : ¬ repeats q f = true := repeats_congr hlast rfl ▸ h
      rw [splitRepeats_cons_of_new h, splitRepeats_cons_of_new h']

/-- **Of two files with one path before which there is no rival the earlier one is kept**, and
nothing else depends on which of them that is. -/
theorem splitRepeats_tied {a b : SourceFile} (hab : a.path.components = b.path.components)
    {last : Option Path} {below : List SourceFile}
    (hlast : last.map Path.components ≠ some a.path.components)
    (hbelow : ∀ c ∈ below, c.path.components ≠ a.path.components) (above : List SourceFile) :
    ∃ kept kept' repeated repeated',
      splitRepeats last (below ++ a :: b :: above) =
        (kept ++ a :: kept', repeated ++ b :: repeated') ∧
      splitRepeats last (below ++ b :: a :: above) =
        (kept ++ b :: kept', repeated ++ a :: repeated') := by
  induction below generalizing last with
  | nil =>
    have hnew : ∀ f : SourceFile, f.path.components = a.path.components →
        ¬ repeats last f = true := by
      intro f hf h
      obtain ⟨p, rfl, hp⟩ := repeats_eq_true_iff.1 h
      exact hlast (congrArg some (hp.trans hf))
    have hnext : (some b.path).map Path.components = (some a.path).map Path.components :=
      congrArg some hab.symm
    have hrepeats : ∀ f g : SourceFile, f.path.components = g.path.components →
        repeats (some f.path) g = true := fun f g h => repeats_eq_true_iff.2 ⟨f.path, rfl, h⟩
    refine ⟨[], (splitRepeats (some a.path) above).1, [], (splitRepeats (some a.path) above).2,
      ?_, ?_⟩
    · rw [List.nil_append, splitRepeats_cons_of_new (hnew a rfl),
        splitRepeats_cons_of_repeats (hrepeats a b hab)]
      rfl
    · rw [List.nil_append, splitRepeats_cons_of_new (hnew b hab.symm),
        splitRepeats_cons_of_repeats (hrepeats b a hab.symm),
        splitRepeats_congr_last hnext]
      rfl
  | cons f below ih =>
    have hf : f.path.components ≠ a.path.components := hbelow f (List.mem_cons_self ..)
    have hrest : ∀ c ∈ below, c.path.components ≠ a.path.components :=
      fun c hc => hbelow c (List.mem_cons_of_mem _ hc)
    by_cases h : repeats last f = true
    · obtain ⟨kept, kept', repeated, repeated', h₁, h₂⟩ := ih hlast hrest
      refine ⟨kept, kept', f :: repeated, repeated', ?_, ?_⟩
      · rw [List.cons_append, splitRepeats_cons_of_repeats h, h₁]
        rfl
      · rw [List.cons_append, splitRepeats_cons_of_repeats h, h₂]
        rfl
    · have hnext : (some f.path).map Path.components ≠ some a.path.components :=
        fun he => hf (Option.some.inj he)
      obtain ⟨kept, kept', repeated, repeated', h₁, h₂⟩ := ih hnext hrest
      refine ⟨f :: kept, kept', repeated, repeated', ?_, ?_⟩
      · rw [List.cons_append, splitRepeats_cons_of_new h, h₁]
        rfl
      · rw [List.cons_append, splitRepeats_cons_of_new h, h₂]
        rfl

/-! ## The files of one language -/

/-- The files in the order in which they compete. -/
def inCompetition (files : List SourceFile) : List SourceFile :=
  files.mergeSort fun a b => (byPathAndContent a b).isLE

/-- The files that are the first of their rivals. -/
def keptOf (files : List SourceFile) : List SourceFile :=
  (splitRepeats none (inCompetition files)).1

/-- The other files. -/
def repeatedOf (files : List SourceFile) : List SourceFile :=
  (splitRepeats none (inCompetition files)).2

theorem Selection.ofFiles_eq (cap : Nat) (files : List SourceFile) :
    ofFiles cap files =
      { files := (keptOf files).take cap
        repeated := repeatedOf files
        truncated := (keptOf files).length - cap } := rfl

theorem inCompetition_perm (files : List SourceFile) : (inCompetition files).Perm files :=
  List.mergeSort_perm files _

/-- Every file is either kept or repeated. -/
theorem keptOf_append_repeatedOf_perm (files : List SourceFile) :
    (keptOf files ++ repeatedOf files).Perm files :=
  (splitRepeats_perm none _).trans (inCompetition_perm files)

theorem mem_of_mem_keptOf {files : List SourceFile} {f : SourceFile} (h : f ∈ keptOf files) :
    f ∈ files :=
  (inCompetition_perm files).mem_iff.1 (mem_of_mem_kept h)

/-- A kept file is the first of its rivals by content. -/
theorem content_isLE_of_mem_keptOf {files : List SourceFile} {f c : SourceFile}
    (hf : f ∈ keptOf files) (hc : c ∈ files) (hpath : c.path.components = f.path.components) :
    (compare f.content c.content).isLE := by
  have hstart : ∀ p, none = some p → ∀ c ∈ inCompetition files, (compare p c.path).isLE := by
    intro p hp
    cases hp
  exact content_isLE_of_mem_kept (pairwise_mergeSort_isLE files) hf hstart
    ((inCompetition_perm files).mem_iff.2 hc) hpath

/-- The paths of the kept files strictly ascend. -/
theorem pairwise_keptOf (files : List SourceFile) :
    (keptOf files).Pairwise fun a b => compare a.path b.path = .lt :=
  pairwise_kept (pairwise_mergeSort_isLE files)

/-- **The places of the kept files** are those of the files that are the first of their rivals. -/
theorem mem_map_place_keptOf_iff {files : List SourceFile} {place : List PathComponent × String} :
    place ∈ (keptOf files).map SourceFile.place ↔
      ∃ f ∈ files, f.place = place ∧
        ∀ c ∈ files, c.path.components = f.path.components →
          (compare f.content c.content).isLE := by
  constructor
  · intro h
    obtain ⟨f, hf, rfl⟩ := List.mem_map.1 h
    exact ⟨f, mem_of_mem_keptOf hf, rfl, fun c hc => content_isLE_of_mem_keptOf hf hc⟩
  · rintro ⟨f, hf, rfl, hfirst⟩
    -- The kept rival of `f` has a content that is neither greater nor less.
    rcases exists_kept_rival none ((inCompetition_perm files).mem_iff.2 hf) with
      ⟨p, hp, -⟩ | ⟨g, hg, hpath⟩
    · cases hp
    · have hle : (compare f.content g.content).isLE := hfirst g (mem_of_mem_keptOf hg) hpath
      have hge : (compare g.content f.content).isLE := content_isLE_of_mem_keptOf hg hf hpath.symm
      have hcontent : g.content = f.content :=
        Std.LawfulEqOrd.eq_of_compare (Std.OrientedCmp.isLE_antisymm hge hle)
      exact List.mem_map.2 ⟨g, hg, Prod.ext hpath hcontent⟩

/-- The places of the kept files do not depend on the order of the files. -/
theorem map_place_keptOf_eq_of_perm {l m : List SourceFile} (h : l.Perm m) :
    (keptOf l).map SourceFile.place = (keptOf m).map SourceFile.place :=
  map_place_kept_congr rfl
    (map_mergeSort_eq_of_perm SourceFile.place byPathAndContent_eq_comparePlaces h)

/-- **Of two tied files that are the first of their rivals the later one is repeated**, and the
other repeated files are the same. -/
theorem repeatedOf_swap {a b : SourceFile} {rest : List SourceFile}
    (hpath : a.path.components = b.path.components) (hcontent : a.content = b.content)
    (hfirst : ∀ c ∈ a :: b :: rest, c.path.components = a.path.components →
      (compare a.content c.content).isLE) :
    ∃ before after, repeatedOf (a :: b :: rest) = before ++ b :: after ∧
      repeatedOf (b :: a :: rest) = before ++ a :: after := by
  have htie : byPathAndContent a b = .eq := byPathAndContent_eq_iff.2 ⟨hpath, hcontent⟩
  obtain ⟨below, above, hbelow, hab, hba⟩ := mergeSort_swap htie rest
  have hmem : ∀ c ∈ below, c ∈ a :: b :: rest := by
    intro c hc
    refine (inCompetition_perm (a :: b :: rest)).mem_iff.1 ?_
    rw [inCompetition, hab]
    exact List.mem_append_left _ hc
  -- What comes before both is less, and a rival of theirs cannot be less.
  have hnorival : ∀ c ∈ below, c.path.components ≠ a.path.components := by
    intro c hc hrival
    have hlt : compare c.content a.content = .lt := by
      have hless := hbelow c hc
      rwa [byPathAndContent, Path.compare_eq_iff.2 (hrival.trans hpath), ← hcontent] at hless
    exact absurd hlt (Std.OrientedCmp.not_lt_of_isLE (hfirst c (hmem c hc) hrival))
  have hlast : (none : Option Path).map Path.components ≠ some a.path.components := by
    intro h
    cases h
  obtain ⟨kept, kept', before, after, hsplit, hsplit'⟩ :=
    splitRepeats_tied hpath hlast hnorival above
  refine ⟨before, after, ?_, ?_⟩
  · rw [repeatedOf, inCompetition, hab, hsplit]
  · rw [repeatedOf, inCompetition, hba, hsplit']

end Affinity
