import Mathlib
import Affinity.Proofs.FileSet.DeliveryOrder
import Affinity.Proofs.FileSet.Fates
import Affinity.Proofs.FileSet.Selection
import Affinity.Proofs.Finding.Counting
import Affinity.Proofs.Settings.Valid
import Affinity.Proofs.Table.Laws

/-!
# What a file set contains

Some deliveries bring a file to choose from. Of each path the file counts whose content is the
first; these files, language by language and in the order of their paths, are the roster of the
language. A file set holds the beginning of each roster, as long as the limit is, and nothing else.

* `Delivery.Brings` — the file that a delivery brings.
* `FileSet.IsRoster` — the files of a language in the order of their paths, one for each path.
* `FileSet.ofLanguage_ofFates` — the files of one language in a set.
* `FileSet.ofDeliveries_holds_rosters` — what the set of some deliveries holds.
-/

namespace Affinity

/-! ## Files to choose from -/

/-- The delivery brings this file to choose from: it was read, is not excluded, not too large, and a
text in the language that its path tells. A mark at the beginning of the text does not count. -/
def Delivery.Brings (globs : List Glob) (limits : Limits) (d : Delivery) (f : SourceFile) : Prop :=
  ∃ raw text, d = .fetched raw ∧ isExcluded globs raw.path = false ∧
    raw.size ≤ limits.maxFileBytes ∧ Utf8.decode raw.bytes = .ok text ∧
    f.path = raw.path ∧ Language.detect? raw.path = some f.language ∧
    f.content = String.ofList (dropByteOrderMark text)

theorem Delivery.fate_eq_kept_iff_brings {globs : List Glob} {limits : Limits} {d : Delivery}
    {f : SourceFile} : d.fate globs limits = .kept f ↔ d.Brings globs limits f := by
  constructor
  · intro h
    obtain ⟨raw, rfl, hkept⟩ := Delivery.fate_eq_kept_iff.1 h
    obtain ⟨hexcluded, hsize, hdecode⟩ := RawFile.fate_eq_kept_iff.1 hkept
    obtain ⟨language, text, hdetect, htext, rfl⟩ := RawFile.decode_eq_ok_iff.1 hdecode
    exact ⟨raw, text, rfl, hexcluded, hsize, htext, rfl, hdetect, rfl⟩
  · rintro ⟨raw, text, rfl, hexcluded, hsize, htext, hpath, hdetect, hcontent⟩
    have hf : f = ⟨raw.path, f.language, String.ofList (dropByteOrderMark text)⟩ := by
      rw [← hpath, ← hcontent]
    exact RawFile.fate_eq_kept_iff.2
      ⟨hexcluded, hsize, RawFile.decode_eq_ok_iff.2 ⟨f.language, text, hdetect, htext, hf⟩⟩

theorem mem_candidates_iff {globs : List Glob} {limits : Limits} {deliveries : List Delivery}
    {f : SourceFile} :
    f ∈ FileSet.candidates globs limits deliveries ↔ ∃ d ∈ deliveries, d.Brings globs limits f := by
  constructor
  · intro h
    obtain ⟨d, hd, hkept⟩ := mem_candidates h
    exact ⟨d, hd, Delivery.fate_eq_kept_iff_brings.1 hkept⟩
  · rintro ⟨d, hd, hbrings⟩
    refine List.mem_filterMap.2 ⟨.kept f, List.mem_map.2 ⟨d, hd, ?_⟩, rfl⟩
    exact Delivery.fate_eq_kept_iff_brings.2 hbrings

/-! ## The files of one language in a set -/

theorem flatMap_eq_of_forall_ne {α β : Type} {f : α → List β} {l : List α} (hnodup : l.Nodup)
    {x : α} (hx : x ∈ l) (hnil : ∀ y ∈ l, y ≠ x → f y = []) : l.flatMap f = f x := by
  obtain ⟨before, after, rfl⟩ := List.append_of_mem hx
  obtain ⟨-, hafter, hdisjoint⟩ := List.nodup_append.1 hnodup
  have hbefore : before.flatMap f = [] :=
    List.flatMap_eq_nil_iff.2 fun y hy =>
      hnil y (List.mem_append_left _ hy) (hdisjoint y hy x (List.mem_cons_self ..))
  have hrest : after.flatMap f = [] :=
    List.flatMap_eq_nil_iff.2 fun y hy =>
      hnil y (List.mem_append_right _ (List.mem_cons_of_mem _ hy)) fun he =>
        (List.nodup_cons.1 hafter).1 (he ▸ hy)
  rw [List.flatMap_append, List.flatMap_cons, hbefore, hrest, List.append_nil, List.nil_append]

namespace FileSet

/-- The files of one language of which a set holds the first. -/
def keptIn (files : List SourceFile) (l : Language) : List SourceFile :=
  keptOf (files.filter fun f => f.language = l)

theorem truncated_choice (cap : Nat) (files : List SourceFile) (l : Language) :
    (choice cap files l).truncated = (keptIn files l).length - cap := rfl

theorem mem_of_mem_keptIn {files : List SourceFile} {l : Language} {f : SourceFile}
    (h : f ∈ keptIn files l) : f ∈ files ∧ f.language = l := by
  obtain ⟨hmem, hlanguage⟩ := List.mem_filter.1 (mem_of_mem_keptOf h)
  exact ⟨hmem, by simpa using hlanguage⟩

/-- **The files of one language in a set** are the first that are kept of this language. -/
theorem ofLanguage_ofFates (cap : Nat) (fates : List Fate) (l : Language) :
    (ofFates cap fates).ofLanguage l = (keptIn (fates.filterMap Fate.kept?) l).take cap := by
  have hpart : ∀ k, ((choice cap (fates.filterMap Fate.kept?) k).files.filter
      fun f => f.language = l) =
        if k = l then (keptIn (fates.filterMap Fate.kept?) l).take cap else [] := by
    intro k
    split
    · next hk =>
      subst hk
      refine List.filter_eq_self.2 fun f hf => ?_
      simpa using (mem_of_mem_keptIn (List.mem_of_mem_take hf)).2
    · next hk =>
      refine List.filter_eq_nil_iff.2 fun f hf => ?_
      have hlanguage : f.language = k := (mem_of_mem_keptIn (List.mem_of_mem_take hf)).2
      simpa [hlanguage] using hk
  have hsorted : ((keptIn (fates.filterMap Fate.kept?) l).take cap).Pairwise
      fun a b => (compare a.path b.path).isLE :=
    ((pairwise_keptOf _).sublist (List.take_sublist _ _)).imp fun h => by rw [h]; rfl
  unfold ofLanguage
  rw [files_ofFates, inOrder, filter_mergeSort, List.filter_flatMap]
  simp only [hpart]
  rw [flatMap_eq_of_forall_ne Language.nodup_all (Language.mem_all l) fun k _ hk => if_neg hk,
    if_pos rfl]
  exact List.mergeSort_of_pairwise hsorted

theorem mem_files_ofFates_iff {cap : Nat} {fates : List Fate} {f : SourceFile} :
    f ∈ (ofFates cap fates).files ↔
      f ∈ (keptIn (fates.filterMap Fate.kept?) f.language).take cap := by
  rw [← ofLanguage_ofFates, ofLanguage, List.mem_filter]
  simp

/-- A file is in the set if no other one has its path and the limit leaves room for all files. -/
theorem mem_files_ofFates_of_alone {cap : Nat} {fates : List Fate} {f : SourceFile}
    (hf : f ∈ fates.filterMap Fate.kept?)
    (halone : ∀ g ∈ fates.filterMap Fate.kept?, g.path.components = f.path.components → g = f)
    (hcap : (fates.filterMap Fate.kept?).length ≤ cap) : f ∈ (ofFates cap fates).files := by
  let rivals := (fates.filterMap Fate.kept?).filter fun g => g.language = f.language
  have hlength : (keptOf rivals).length ≤ cap := by
    have hsplit := (keptOf_append_repeatedOf_perm rivals).length_eq
    have hrivals : rivals.length ≤ _ := List.length_filter_le ..
    rw [List.length_append] at hsplit
    omega
  have hplace : f.place ∈ (keptOf rivals).map SourceFile.place := by
    refine mem_map_place_keptOf_iff.2
      ⟨f, List.mem_filter.2 ⟨hf, by simp⟩, rfl, fun c hc hpath => ?_⟩
    rw [halone c (List.mem_of_mem_filter hc) hpath]
    exact Std.ReflCmp.isLE_rfl
  obtain ⟨g, hg, hsame⟩ := List.mem_map.1 hplace
  have hg' : g ∈ fates.filterMap Fate.kept? := List.mem_of_mem_filter (mem_of_mem_keptOf hg)
  rw [mem_files_ofFates_iff, keptIn, List.take_of_length_le hlength,
    ← halone g hg' (congrArg Prod.fst hsame)]
  exact hg

/-! ## Order -/

/-- **The paths in a set strictly ascend**, also from language to language. -/
theorem pairwise_files_ofFates {cap : Nat} {fates : List Fate}
    (hdetected : Detected (fates.filterMap Fate.kept?)) :
    (ofFates cap fates).files.Pairwise fun a b => compare a.path b.path = .lt := by
  have hsorted : (ofFates cap fates).files.Pairwise fun a b => (compare a.path b.path).isLE :=
    files_ofFates cap fates ▸ pairwise_mergeSort_isLE _
  have hapart : (ofFates cap fates).files.Pairwise fun a b => compare a.path b.path ≠ .eq := by
    rw [files_ofFates]
    refine ((List.mergeSort_perm _ _).pairwise_iff fun h he => h (Std.OrientedCmp.eq_symm he)).2 ?_
    refine List.pairwise_flatMap.2
      ⟨fun l _ => ?_, Language.nodup_all.imp fun hne a ha b hb he => ?_⟩
    · exact ((pairwise_keptOf _).sublist (List.take_sublist _ _)).imp fun h he => by simp [h] at he
    · -- Files with one path are of one language.
      obtain ⟨hmem, hlanguage⟩ := mem_of_mem_keptIn (List.mem_of_mem_take ha)
      obtain ⟨hmem', hlanguage'⟩ := mem_of_mem_keptIn (List.mem_of_mem_take hb)
      have hsame := hdetected.language_eq hmem hmem' (Path.compare_eq_iff.1 he)
      exact hne (hlanguage.symm.trans (hsame.trans hlanguage'))
  exact (hsorted.and hapart).imp fun h => (Ordering.isLE_iff_eq_lt_or_eq_eq.1 h.1).resolve_right h.2

theorem path_ne_of_lt {a b : SourceFile} (h : compare a.path b.path = .lt) : a.path ≠ b.path := by
  intro he
  have hself : compare a.path a.path = .eq := Std.ReflCmp.compare_self
  rw [← he, hself] at h
  cases h

theorem sublist_of_subset_of_ascending {l m : List SourceFile} (h : l ⊆ m)
    (hl : l.Pairwise fun a b => compare a.path b.path = .lt)
    (hm : m.Pairwise fun a b => compare a.path b.path = .lt) : l.Sublist m := by
  have hne : ∀ a b : SourceFile, compare a.path b.path = .lt → a ≠ b :=
    fun a b hlt he => path_ne_of_lt hlt (congrArg SourceFile.path he)
  have hantisymm : Std.Antisymm fun a b : SourceFile => compare a.path b.path = .lt :=
    ⟨fun a b hab hba => absurd hba (Std.OrientedCmp.not_lt_of_lt hab)⟩
  exact List.sublist_of_subperm_of_pairwise (List.subperm_of_subset (hl.imp (hne _ _)) h) hl hm

/-- A higher limit only adds files. -/
theorem files_ofFates_sublist {cap higher : Nat} (hcap : cap ≤ higher) {fates : List Fate}
    (hdetected : Detected (fates.filterMap Fate.kept?)) :
    (ofFates cap fates).files.Sublist (ofFates higher fates).files := by
  refine sublist_of_subset_of_ascending (fun f hf => ?_) (pairwise_files_ofFates hdetected)
    (pairwise_files_ofFates hdetected)
  exact mem_files_ofFates_iff.2
    ((List.take_sublist_take_left hcap).subset (mem_files_ofFates_iff.1 hf))

/-! ## Truncation -/

/-- The files of a language beyond the limit, if there are any. -/
theorem truncated_ofFates_get? (cap : Nat) (fates : List Fate) (l : Language) :
    (ofFates cap fates).coverage.truncated.get? l =
      if cap < (keptIn (fates.filterMap Fate.kept?) l).length then
        some ((keptIn (fates.filterMap Fate.kept?) l).length - cap)
      else none := by
  have hascending : ((Language.all.map fun l =>
      (l, (choice cap (fates.filterMap Fate.kept?) l).truncated)).filter fun e => 0 < e.2).Pairwise
        fun a b => compare a.1 b.1 = .lt :=
    (List.pairwise_map.2 Language.pairwise_all).filter _
  ext n
  rw [truncated_ofFates, Table.get?_ofList_of_ascending hascending]
  simp only [List.mem_filter, List.mem_map, Prod.mk.injEq, truncated_choice, Language.mem_all,
    true_and, exists_eq_left, decide_eq_true_eq, Option.ite_none_right_eq_some, Option.some.injEq]
  omega

/-! ## Rosters -/

/-- The roster of a language: the paths at which the deliveries bring files of this language, in
their order, each with the first of the contents that are brought for it. -/
structure IsRoster (globs : List Glob) (limits : Limits) (deliveries : List Delivery)
    (l : Language) (roster : List (List PathComponent × String)) : Prop where
  ascending : roster.Pairwise fun a b => compare a.1 b.1 = .lt
  mem_iff : ∀ place, place ∈ roster ↔
    ∃ d ∈ deliveries, ∃ f, d.Brings globs limits f ∧ f.language = l ∧ f.place = place ∧
      ∀ d' ∈ deliveries, ∀ f', d'.Brings globs limits f' →
        f'.path.components = f.path.components → (compare f.content f'.content).isLE

/-- A language has one roster. -/
theorem IsRoster.unique {globs : List Glob} {limits : Limits} {deliveries : List Delivery}
    {l : Language} {roster other : List (List PathComponent × String)}
    (h : IsRoster globs limits deliveries l roster)
    (h' : IsRoster globs limits deliveries l other) : roster = other := by
  have hirrefl : Std.Irrefl fun a b : List PathComponent × String => compare a.1 b.1 = .lt :=
    ⟨fun a => by simp⟩
  have hantisymm : Std.Antisymm fun a b : List PathComponent × String => compare a.1 b.1 = .lt :=
    ⟨fun a b hab hba => absurd hba (Std.OrientedCmp.not_lt_of_lt hab)⟩
  exact h.ascending.eq_of_mem_iff h'.ascending fun place =>
    (h.mem_iff place).trans (h'.mem_iff place).symm

/-- The kept files of a language stand at the places of its roster. -/
theorem isRoster_keptIn (globs : List Glob) (limits : Limits) (deliveries : List Delivery)
    (l : Language) :
    IsRoster globs limits deliveries l
      ((keptIn (candidates globs limits deliveries) l).map SourceFile.place) := by
  refine ⟨List.pairwise_map.2 (pairwise_keptOf _), fun place => ?_⟩
  rw [keptIn, mem_map_place_keptOf_iff]
  constructor
  · rintro ⟨f, hf, hplace, hfirst⟩
    obtain ⟨hmem, hlanguage⟩ := List.mem_filter.1 hf
    obtain ⟨d, hd, hbrings⟩ := mem_candidates_iff.1 hmem
    refine ⟨d, hd, f, hbrings, by simpa using hlanguage, hplace, fun d' hd' f' hbrings' hpath => ?_⟩
    -- A file with the same path is of the same language, so it is among the rivals.
    have hmem' := mem_candidates_iff.2 ⟨d', hd', hbrings'⟩
    have hsame := (detected_candidates globs limits deliveries).language_eq hmem' hmem hpath
    exact hfirst f' (List.mem_filter.2 ⟨hmem', by rw [hsame]; exact hlanguage⟩) hpath
  · rintro ⟨d, hd, f, hbrings, rfl, hplace, hfirst⟩
    have hmem := mem_candidates_iff.2 ⟨d, hd, hbrings⟩
    refine ⟨f, List.mem_filter.2 ⟨hmem, by simp⟩, hplace, fun c hc hpath => ?_⟩
    obtain ⟨d', hd', hbrings'⟩ := mem_candidates_iff.1 (List.mem_of_mem_filter hc)
    exact hfirst d' hd' c hbrings' hpath

/-- A set holds the beginning of the roster of each language, and tells how much of it is left
out. -/
structure HoldsRosters (globs : List Glob) (limits : Limits) (deliveries : List Delivery)
    (set : FileSet) : Prop where
  rosters : ∀ l, ∃ roster, IsRoster globs limits deliveries l roster ∧
    (set.ofLanguage l).map SourceFile.place = roster.take limits.maxFilesPerLanguage ∧
    set.coverage.truncated.get? l =
      if limits.maxFilesPerLanguage < roster.length then
        some (roster.length - limits.maxFilesPerLanguage)
      else none
  /-- Each file is one that was brought, with the text that was read. -/
  brought : ∀ f ∈ set.files, ∃ d ∈ deliveries, d.Brings globs limits f
  ascending : set.files.Pairwise fun a b => compare a.path b.path = .lt

theorem holdsRosters_ofFates (globs : List Glob) (limits : Limits) (deliveries : List Delivery) :
    HoldsRosters globs limits deliveries
      (ofFates limits.maxFilesPerLanguage (deliveries.map (Delivery.fate globs limits))) where
  rosters l := by
    refine ⟨_, isRoster_keptIn globs limits deliveries l, ?_, ?_⟩
    · rw [ofLanguage_ofFates, List.map_take]
      rfl
    · rw [truncated_ofFates_get?, List.length_map]
      rfl
  brought f hf :=
    mem_candidates_iff.1
      (mem_of_mem_keptIn (List.mem_of_mem_take (mem_files_ofFates_iff.1 hf))).1
  ascending := pairwise_files_ofFates (detected_candidates globs limits deliveries)

variable {K : Type}

theorem ofDeliveries_of_globsOf {settings : Settings K} {globs : List Glob}
    (h : globsOf settings.exclude = .ok globs) (deliveries : List Delivery) :
    ofDeliveries settings deliveries =
      .ok (ofFates settings.limits.maxFilesPerLanguage
        (deliveries.map (Delivery.fate globs settings.limits))) := by
  rw [ofDeliveries, h]
  rfl

/-- **What the set of some deliveries holds**, if the settings make sense: of each language the
beginning of its roster, in the order of the paths. A higher limit only adds files. -/
theorem ofDeliveries_holds_rosters [Scalar K] {settings : Settings K}
    (hvalid : settings.isValid = true) (deliveries : List Delivery) :
    ∃ globs set, globsOf settings.exclude = .ok globs ∧
      ofDeliveries settings deliveries = .ok set ∧
      HoldsRosters globs settings.limits deliveries set ∧
      ∀ higher, settings.limits.maxFilesPerLanguage ≤ higher →
        ∃ larger, ofDeliveries
            { settings with limits := { settings.limits with maxFilesPerLanguage := higher } }
            deliveries = .ok larger ∧ set.files.Sublist larger.files := by
  obtain ⟨globs, hglobs⟩ := Settings.exists_globsOf hvalid
  refine ⟨globs, _, hglobs, ofDeliveries_of_globsOf hglobs deliveries,
    holdsRosters_ofFates globs settings.limits deliveries, fun higher hhigher => ?_⟩
  let raised : Settings K :=
    { settings with limits := { settings.limits with maxFilesPerLanguage := higher } }
  have hfate : Delivery.fate globs raised.limits = Delivery.fate globs settings.limits := by
    funext d
    cases d <;> rfl
  have hraised : globsOf raised.exclude = .ok globs := hglobs
  refine ⟨_, ofDeliveries_of_globsOf hraised deliveries, ?_⟩
  rw [hfate]
  exact files_ofFates_sublist hhigher (detected_candidates globs settings.limits deliveries)

/-- At most one file of a language: two contents for the first path, one of them with a mark before
it, another path behind it, and a file that was not read. -/
theorem ofDeliveries_holds_rosters_one_place :
    let settings : Settings ℚ :=
      { Settings.standard with limits := { maxFilesPerLanguage := 1 } }
    let deliveries : List Delivery :=
      [.fetched ⟨⟨"b.py"⟩, [120]⟩, .fetched ⟨⟨"a.py"⟩, [121]⟩,
        .fetched ⟨⟨"a.py"⟩, [0xef, 0xbb, 0xbf, 120]⟩, .failed ⟨"c.py"⟩ "gone"]
    settings.isValid = true ∧
      ∃ globs set, globsOf settings.exclude = .ok globs ∧
        ofDeliveries settings deliveries = .ok set ∧
        HoldsRosters globs settings.limits deliveries set ∧
        ∀ higher, 1 ≤ higher →
          ∃ larger, ofDeliveries
              { settings with limits := { settings.limits with maxFilesPerLanguage := higher } }
              deliveries = .ok larger ∧ set.files.Sublist larger.files := by
  intro settings deliveries
  have hvalid : settings.isValid = true := by
    obtain ⟨hweights, himportance, -, hthresholds, hexclude⟩ :=
      (Settings.isValid_iff _).1 (Settings.standard_isValid (K := ℚ))
    exact (Settings.isValid_iff settings).2 ⟨hweights, himportance, rfl, hthresholds, hexclude⟩
  exact ⟨hvalid, ofDeliveries_holds_rosters hvalid deliveries⟩

end FileSet

end Affinity
