import Mathlib
import Affinity.Proofs.FileSet.Fates
import Affinity.Proofs.FileSet.Selection
import Affinity.Proofs.Settings.Valid
import Affinity.Proofs.Table.Laws

/-!
# The order of deliveries

A file set does not depend on the order in which the files were delivered, except for one thing:
paths with different texts may have the same components, and if files with such paths have the same
content, then the one that was delivered first is kept under its own name.

* `TiesShareKey` — files of which either may be kept have the same name in reports.
* `Selection.agree_of_perm` — the choice within one language, for files in any order.
* `FileSet.listing_independent_iff` — when the order of the deliveries does not matter.
-/

namespace Affinity

/-! ## What is told of a file set -/

/-- What reports tell of a file. -/
def SourceFile.listing (file : SourceFile) : String × Language × String :=
  (file.key, file.language, file.content)

/-- The same with the components of the path, which decide the order of the files. -/
def SourceFile.placedListing (file : SourceFile) :
    List PathComponent × String × Language × String :=
  (file.path.components, file.listing)

/-- What reports tell of a file set. -/
def FileSet.listing (set : FileSet) : List (String × Language × String) × Coverage :=
  (set.files.map SourceFile.listing, set.coverage)

/-- The tied files that are the first of their rivals have the same name in reports. -/
def TiesShareKey (files : List SourceFile) : Prop :=
  ∀ a ∈ files, ∀ b ∈ files, a.path.components = b.path.components → a.content = b.content →
    (∀ c ∈ files, c.path.components = a.path.components → (compare a.content c.content).isLE) →
    a.key = b.key

/-- The languages of the files are those that their paths tell. -/
def Detected (files : List SourceFile) : Prop :=
  ∀ f ∈ files, Language.detect? f.path = some f.language

theorem Detected.language_eq {files : List SourceFile} (h : Detected files) {f g : SourceFile}
    (hf : f ∈ files) (hg : g ∈ files) (hpath : f.path.components = g.path.components) :
    f.language = g.language := by
  have hdetect : Language.detect? f.path = Language.detect? g.path := by
    unfold Language.detect? Path.extension? Path.fileName?
    rw [hpath]
  rw [h f hf, h g hg] at hdetect
  exact Option.some.inj hdetect

theorem detected_candidates (globs : List Glob) (limits : Limits) (deliveries : List Delivery) :
    Detected (FileSet.candidates globs limits deliveries) := by
  intro f hf
  obtain ⟨d, -, hd⟩ := mem_candidates hf
  exact detect?_of_fate_kept hd

/-! ## Files of one language -/

/-- The files of one language inherit what holds of their rivals, who are of that language too. -/
theorem TiesShareKey.filter {files : List SourceFile} (h : TiesShareKey files)
    (hdetected : Detected files) (l : Language) :
    TiesShareKey (files.filter fun f => f.language = l) := by
  intro a ha b hb hpath hcontent hfirst
  have ha' : a ∈ files := List.mem_of_mem_filter ha
  refine h a ha' b (List.mem_of_mem_filter hb) hpath hcontent ?_
  intro c hc hrival
  refine hfirst c (List.mem_filter.2 ⟨hc, ?_⟩) hrival
  have hal : a.language = l := by simpa using (List.mem_filter.1 ha).2
  simpa using (hdetected.language_eq hc ha' hrival).trans hal

theorem map_eq_of_map_eq {α α' β γ : Type} {f : α → β} {f' : α' → β} {g : α → γ} {g' : α' → γ}
    {l : List α} {m : List α'} (h : l.map f = m.map f')
    (hg : ∀ a ∈ l, ∀ b ∈ m, f a = f' b → g a = g' b) : l.map g = m.map g' := by
  induction l generalizing m with
  | nil =>
    rw [List.map_eq_nil_iff.1 h.symm]
    rfl
  | cons a l ih =>
    obtain ⟨b, m, rfl, hab, hrest⟩ := List.map_eq_cons_iff.1 h.symm
    rw [List.map_cons, List.map_cons,
      hg a (List.mem_cons_self ..) b (List.mem_cons_self ..) hab.symm,
      ih hrest.symm fun a ha b hb =>
        hg a (List.mem_cons_of_mem _ ha) b (List.mem_cons_of_mem _ hb)]

namespace Selection

/-- Two selections agree if the same is told of their files, in the same order, and of those left
out, in any order. -/
structure Agree (s t : Selection) : Prop where
  files : s.files.map SourceFile.placedListing =
    t.files.map SourceFile.placedListing
  repeated : (s.repeated.map SourceFile.key).Perm (t.repeated.map SourceFile.key)
  truncated : s.truncated = t.truncated

/-- Files that are kept at one place, whatever order they came in, are told of in the same way. -/
theorem listing_eq_of_place_eq {l m : List SourceFile} (h : l.Perm m) (hties : TiesShareKey l)
    (hdetected : Detected l) {a b : SourceFile} (ha : a ∈ keptOf l) (hb : b ∈ keptOf m)
    (hplace : a.place = b.place) : a.listing = b.listing := by
  have ha' : a ∈ l := mem_of_mem_keptOf ha
  have hb' : b ∈ l := h.mem_iff.2 (mem_of_mem_keptOf hb)
  obtain ⟨hpath, hcontent⟩ := Prod.ext_iff.1 hplace
  have hkey : a.key = b.key :=
    hties a ha' b hb' hpath hcontent fun c hc => content_isLE_of_mem_keptOf ha hc
  exact Prod.ext hkey (Prod.ext (hdetected.language_eq ha' hb' hpath) hcontent)

/-- **The choice among the files of one language does not depend on their order** if ties share
their key. -/
theorem agree_of_perm (cap : Nat) {l m : List SourceFile} (h : l.Perm m) (hties : TiesShareKey l)
    (hdetected : Detected l) : Agree (ofFiles cap l) (ofFiles cap m) := by
  have hkept : (keptOf l).map SourceFile.placedListing =
      (keptOf m).map SourceFile.placedListing := by
    refine map_eq_of_map_eq (map_place_keptOf_eq_of_perm h) fun a ha b hb hab => ?_
    have hpath : a.path.components = b.path.components := congrArg Prod.fst hab
    exact Prod.ext hpath (listing_eq_of_place_eq h hties hdetected ha hb hab)
  refine ⟨?_, ?_, ?_⟩
  · rw [ofFiles_eq, ofFiles_eq, List.map_take, List.map_take, hkept]
  · -- All keys are the same, and so are those of the kept files; the others remain.
    have hkeys : (keptOf l).map SourceFile.key = (keptOf m).map SourceFile.key :=
      map_eq_of_map_eq hkept fun a _ b _ hab => congrArg (fun told => told.2.1) hab
    have hall := ((keptOf_append_repeatedOf_perm l).trans
      (h.trans (keptOf_append_repeatedOf_perm m).symm)).map SourceFile.key
    rw [List.map_append, List.map_append, hkeys] at hall
    exact (List.perm_append_left_iff _).1 hall
  · have hlength := congrArg List.length hkept
    rw [List.length_map, List.length_map] at hlength
    exact congrArg (· - cap) hlength

/-- The order in which two tied files came can be told from the keys of the repeated files. -/
theorem key_eq_of_repeated_perm {a b : SourceFile} {rest : List SourceFile}
    (hpath : a.path.components = b.path.components) (hcontent : a.content = b.content)
    (hfirst : ∀ c ∈ a :: b :: rest, c.path.components = a.path.components →
      (compare a.content c.content).isLE)
    (h : ((repeatedOf (a :: b :: rest)).map SourceFile.key).Perm
      ((repeatedOf (b :: a :: rest)).map SourceFile.key)) : a.key = b.key := by
  obtain ⟨before, after, hab, hba⟩ := repeatedOf_swap hpath hcontent hfirst
  rw [hab, hba, List.map_append, List.map_append, List.perm_append_left_iff, List.map_cons,
    List.map_cons] at h
  have hcons : ([b.key] ++ after.map SourceFile.key).Perm ([a.key] ++ after.map SourceFile.key) := h
  rw [List.perm_append_right_iff, List.singleton_perm_singleton] at hcons
  exact hcons.symm

end Selection

/-! ## All languages -/

theorem perm_of_flatMap_perm {α β : Type} {f g : α → List β} {l : List α} (hnodup : l.Nodup)
    {x : α} (hx : x ∈ l) (hsame : ∀ y ∈ l, y ≠ x → f y = g y)
    (h : (l.flatMap f).Perm (l.flatMap g)) : (f x).Perm (g x) := by
  obtain ⟨before, after, rfl⟩ := List.append_of_mem hx
  obtain ⟨-, hafter, hdisjoint⟩ := List.nodup_append.1 hnodup
  have hbefore : before.flatMap f = before.flatMap g :=
    List.flatMap_congr fun y hy =>
      hsame y (List.mem_append_left _ hy) (hdisjoint y hy x (List.mem_cons_self ..))
  have hrest : after.flatMap f = after.flatMap g :=
    List.flatMap_congr fun y hy =>
      hsame y (List.mem_append_right _ (List.mem_cons_of_mem _ hy)) fun he =>
        (List.nodup_cons.1 hafter).1 (he ▸ hy)
  rw [List.flatMap_append, List.flatMap_append, List.flatMap_cons, List.flatMap_cons, hbefore,
    hrest, List.perm_append_left_iff, List.perm_append_right_iff] at h
  exact h

namespace FileSet

variable {K : Type}

theorem ascending_eq_of_perm {l m : List FileWarning} (h : l.Perm m) :
    FileWarning.ascending l = FileWarning.ascending m :=
  mergeSort_eq_of_perm h fun _ _ _ _ he => Std.LawfulEqOrd.eq_of_compare he

theorem inOrder_listing_congr {l m : List SourceFile}
    (h : l.map SourceFile.placedListing =
      m.map SourceFile.placedListing) :
    (inOrder l).map SourceFile.listing = (inOrder m).map SourceFile.listing := by
  have hsort : ∀ l : List SourceFile,
      (inOrder l).map SourceFile.placedListing =
        (l.map SourceFile.placedListing).mergeSort fun a b =>
          (compare a.1 b.1).isLE := fun l => List.map_mergeSort fun _ _ _ _ => rfl
  have hstamp : (inOrder l).map SourceFile.placedListing =
      (inOrder m).map SourceFile.placedListing := by
    rw [hsort, hsort, h]
  have hsnd := congrArg (List.map Prod.snd) hstamp
  rwa [List.map_map, List.map_map] at hsnd

/-- **The order of the deliveries does not matter if ties share their key.** -/
theorem listing_ofFates_eq (cap : Nat) {fates others : List Fate} (h : fates.Perm others)
    (hties : TiesShareKey (fates.filterMap Fate.kept?))
    (hdetected : Detected (fates.filterMap Fate.kept?)) :
    (ofFates cap fates).listing = (ofFates cap others).listing := by
  have hagree : ∀ l, (choice cap (fates.filterMap Fate.kept?) l).Agree
      (choice cap (others.filterMap Fate.kept?) l) := fun l =>
    Selection.agree_of_perm cap ((h.filterMap _).filter _) (hties.filter hdetected l)
      fun f hf => hdetected f (List.mem_of_mem_filter hf)
  refine Prod.ext ?_ ?_
  · show (ofFates cap fates).files.map _ = (ofFates cap others).files.map _
    rw [files_ofFates, files_ofFates]
    apply inOrder_listing_congr
    rw [List.map_flatMap, List.map_flatMap]
    exact List.flatMap_congr fun l _ => (hagree l).files
  · have htruncated : (ofFates cap fates).coverage.truncated =
        (ofFates cap others).coverage.truncated := by
      rw [truncated_ofFates, truncated_ofFates]
      simp only [(hagree _).truncated]
    have hwarnings : (ofFates cap fates).coverage.warnings =
        (ofFates cap others).coverage.warnings := by
      rw [warnings_ofFates, warnings_ofFates]
      exact ascending_eq_of_perm <| (h.filterMap _).append <|
        List.Perm.flatMap_left _ fun l _ => (hagree l).repeated.map repeatWarning
    have hunsupported : (fates.filterMap Fate.unsupported?).Perm
        (others.filterMap Fate.unsupported?) := h.filterMap _
    simp only [ofFates] at htruncated hwarnings
    simp only [listing, ofFates, htruncated, hwarnings, h.length_eq, h.countP_eq,
      hunsupported.length_eq, Table.tally_perm hunsupported]

/-- If it does not matter which of two tied files comes first, they share their key. -/
theorem key_eq_of_listing_eq (cap : Nat) {a b : SourceFile} {rest : List Fate}
    (hlanguage : a.language = b.language) (hpath : a.path.components = b.path.components)
    (hcontent : a.content = b.content)
    (hfirst : ∀ c ∈ a :: b :: rest.filterMap Fate.kept?, c.path.components = a.path.components →
      (compare a.content c.content).isLE)
    (h : (ofFates cap (.kept a :: .kept b :: rest)).listing =
      (ofFates cap (.kept b :: .kept a :: rest)).listing) : a.key = b.key := by
  have hwarnings : (ofFates cap (.kept b :: .kept a :: rest)).coverage.warnings =
      (ofFates cap (.kept a :: .kept b :: rest)).coverage.warnings :=
    congrArg (fun told => told.2.warnings) h.symm
  have hall := (warnings_ofFates_perm cap _).symm.trans (hwarnings ▸ warnings_ofFates_perm cap _)
  -- Both begin with the warnings about `rest`; then only those of one language can differ.
  have hrepeats := (List.perm_append_left_iff (rest.filterMap Fate.warning?)).1 hall
  have hother : ∀ l ∈ Language.all, l ≠ a.language →
      repeatWarnings cap (a :: b :: rest.filterMap Fate.kept?) l =
        repeatWarnings cap (b :: a :: rest.filterMap Fate.kept?) l := by
    intro l _ hl
    have ha : ¬ a.language = l := fun he => hl he.symm
    have hb : ¬ b.language = l := hlanguage ▸ ha
    simp [repeatWarnings, choice, ha, hb]
  have hkeys := (perm_of_flatMap_perm Language.nodup_all (Language.mem_all a.language) hother
    hrepeats).map FileWarning.path
  simp only [map_path_repeatWarnings, choice, Selection.ofFiles_eq, List.filter_cons, ← hlanguage,
    decide_true, if_true] at hkeys
  refine Selection.key_eq_of_repeated_perm hpath hcontent ?_ hkeys
  intro c hc hrival
  refine hfirst c ?_ hrival
  rcases List.mem_cons.1 hc with rfl | hc
  · exact List.mem_cons_self ..
  · rcases List.mem_cons.1 hc with rfl | hc
    · exact List.mem_cons_of_mem _ (List.mem_cons_self ..)
    · exact List.mem_cons_of_mem _ (List.mem_cons_of_mem _ (List.mem_of_mem_filter hc))

/-! ## Deliveries -/

/-- Two deliveries of a list can be brought to its beginning, in either order. -/
theorem exists_perm_swap {d e : Delivery} {deliveries : List Delivery} (hd : d ∈ deliveries)
    (he : e ∈ deliveries) (hne : d ≠ e) :
    ∃ rest, (d :: e :: rest).Perm deliveries ∧ (e :: d :: rest).Perm deliveries := by
  have he' : e ∈ deliveries.erase d := (List.mem_erase_of_ne hne.symm).2 he
  have hperm : (d :: e :: (deliveries.erase d).erase e).Perm deliveries :=
    ((List.perm_cons_erase hd).trans ((List.perm_cons_erase he').cons d)).symm
  exact ⟨_, hperm, (List.Perm.swap d e _).trans hperm⟩

/-- **When the order of the deliveries does not matter.** Deliveries in any other order give what
is told of the file set exactly if the files of which either may be kept share their key. -/
theorem listing_independent_iff (settings : Settings K) (deliveries : List Delivery) :
    (∀ other : List Delivery, other.Perm deliveries →
      (ofDeliveries settings other).map listing = (ofDeliveries settings deliveries).map listing) ↔
    ∀ globs, globsOf settings.exclude = .ok globs →
      TiesShareKey (candidates globs settings.limits deliveries) := by
  constructor
  · intro h globs hglobs a ha b hb hpath hcontent hfirst
    obtain ⟨d, hd, hda⟩ := mem_candidates ha
    obtain ⟨e, he, heb⟩ := mem_candidates hb
    by_cases hde : d = e
    · rw [hde, heb] at hda
      cases hda
      rfl
    obtain ⟨rest, hperm, hswap⟩ := exists_perm_swap hd he hde
    have hlisting := (h _ hperm).trans (h _ hswap).symm
    simp only [ofDeliveries, hglobs, Except.map, List.map_cons, hda, heb, Except.ok.injEq]
      at hlisting
    have hlanguage : a.language = b.language :=
      (detected_candidates globs settings.limits deliveries).language_eq ha hb hpath
    refine key_eq_of_listing_eq _ hlanguage hpath hcontent (fun c hc => hfirst c ?_) hlisting
    have hall : (candidates globs settings.limits (d :: e :: rest)).Perm
        (candidates globs settings.limits deliveries) := (hperm.map _).filterMap _
    refine hall.mem_iff.1 ?_
    simp only [candidates, List.map_cons, hda, heb]
    exact hc
  · intro h other hperm
    cases hglobs : globsOf settings.exclude with
    | error e => simp only [ofDeliveries, hglobs, Except.map]
    | ok globs =>
      simp only [ofDeliveries, hglobs, Except.map, Except.ok.injEq]
      exact (listing_ofFates_eq _ (hperm.symm.map _) (h globs hglobs)
        (detected_candidates globs settings.limits deliveries)).symm

/-- One file under two spellings of its path: the one that is delivered first is listed, with a
warning about the other. -/
theorem spellings_listed_by_order :
    let short : Delivery := .fetched ⟨⟨"a/b.py"⟩, [120]⟩
    let long : Delivery := .fetched ⟨⟨"a//b.py"⟩, [120]⟩
    (Settings.standard : Settings ℚ).isValid = true ∧ [short, long].Perm [long, short] ∧
      (ofDeliveries (.standard : Settings ℚ) [short, long]).map listing ≠
        (ofDeliveries (.standard : Settings ℚ) [long, short]).map listing := by
  intro short long
  refine ⟨Settings.standard_isValid, List.Perm.swap .., fun h => ?_⟩
  have hsize : ∀ path, (⟨path, [120]⟩ : RawFile).size ≤ ({} : Limits).maxFileBytes :=
    fun _ => show 1 ≤ 1048576 by decide
  have hkept : ∀ path, Language.detect? path = some .python →
      (Delivery.fetched ⟨path, [120]⟩).fate [] {} = .kept ⟨path, .python, "x"⟩ := fun path hpath =>
    RawFile.fate_eq_kept_iff.2
      ⟨rfl, hsize path, RawFile.decode_eq_ok_iff.2 ⟨.python, ['x'], hpath, rfl, rfl⟩⟩
  let a : SourceFile := ⟨⟨"a/b.py"⟩, .python, "x"⟩
  let b : SourceFile := ⟨⟨"a//b.py"⟩, .python, "x"⟩
  have hshort : short.fate [] {} = .kept a := hkept _ (by decide +kernel)
  have hlong : long.fate [] {} = .kept b := hkept _ (by decide +kernel)
  have hset : ∀ deliveries, ofDeliveries (.standard : Settings ℚ) deliveries =
      .ok (ofFates 500 (deliveries.map (Delivery.fate [] {}))) := fun _ => rfl
  simp only [hset, Except.map, List.map_cons, List.map_nil, hshort, hlong, Except.ok.injEq] at h
  have hpath : a.path.components = b.path.components := by decide
  have hfirst : ∀ c ∈ a :: b :: [].filterMap Fate.kept?, c.path.components = a.path.components →
      (compare a.content c.content).isLE := by
    intro c hc _
    rw [List.filterMap_nil, List.mem_cons, List.mem_singleton] at hc
    rcases hc with rfl | rfl <;> exact Std.ReflCmp.isLE_rfl
  have hkey : a.key = b.key := key_eq_of_listing_eq 500 rfl hpath rfl hfirst h
  exact absurd hkey (by decide)

end FileSet

end Affinity
