import Affinity.Proofs.Scalar.Comparable
import Affinity.Proofs.Settings.Valid

/-!
# The importance that settings give to a language

Settings list multipliers by the names of languages, and a language has several names: its key, in
any letter case, and perhaps an alias. The check of the settings accepts two names of one language.
Then the multiplier of the first of them counts, and the other entry is without effect.

* `Settings.importanceOf_first` — the first entry that names a language takes effect.
* `Settings.importanceOf_of_unnamed` — a language that no entry names has the importance one.
* `Settings.takesEffect_iff` — when every entry takes effect.
* `Settings.second_name_without_effect` — two names of one language, with different multipliers.
-/

namespace Affinity

open Scalar

namespace Settings

variable {K : Type} [Scalar K] {settings : Settings K} {language : Language}

/-- The entry names a language, whose importance is the multiplier of the entry. -/
def TakesEffect (settings : Settings K) (entry : String × K) : Prop :=
  ∃ language, Language.ofName? entry.1 = some language ∧ settings.importanceOf language = entry.2

/-- Entries that name the same language have the same multiplier. -/
def NamesAgree (settings : Settings K) : Prop :=
  ∀ entry ∈ settings.importance.entries, ∀ other ∈ settings.importance.entries,
    Language.ofName? entry.1 = Language.ofName? other.1 → entry.2 = other.2

/-! ## The entry that counts -/

/-- The first entry that names a language takes effect. -/
theorem importanceOf_first {before after : List (String × K)} {entry : String × K}
    (hentries : settings.importance.entries = before ++ entry :: after)
    (hbefore : ∀ earlier ∈ before, Language.ofName? earlier.1 ≠ some language)
    (hentry : Language.ofName? entry.1 = some language) :
    settings.importanceOf language = entry.2 := by
  have hfind : (settings.importance.entries.find? fun e => Language.ofName? e.1 == some language) =
      some entry := by
    rw [hentries, List.find?_append, List.find?_eq_none.2 fun e he => by simpa using hbefore e he,
      List.find?_cons_of_pos (by simpa using hentry)]
    rfl
  rw [importanceOf, hfind]

/-- A language that is named has the multiplier of one of the entries that name it. -/
theorem exists_importanceOf {entry : String × K} (hentry : entry ∈ settings.importance.entries)
    (hname : Language.ofName? entry.1 = some language) :
    ∃ first ∈ settings.importance.entries, Language.ofName? first.1 = some language ∧
      settings.importanceOf language = first.2 := by
  have hsome : (settings.importance.entries.find? fun e =>
      Language.ofName? e.1 == some language).isSome = true :=
    List.find?_isSome.2 ⟨entry, hentry, by simpa using hname⟩
  obtain ⟨first, hfirst⟩ := Option.isSome_iff_exists.1 hsome
  refine ⟨first, List.mem_of_find?_eq_some hfirst, ?_, ?_⟩
  · simpa using List.find?_some hfirst
  · rw [importanceOf, hfirst]

/-- A language that no entry names counts once. -/
theorem importanceOf_of_unnamed
    (h : ∀ entry ∈ settings.importance.entries, Language.ofName? entry.1 ≠ some language) :
    settings.importanceOf language = 1.0 := by
  have hfind : (settings.importance.entries.find? fun e => Language.ofName? e.1 == some language) =
      none :=
    List.find?_eq_none.2 fun e he => by simpa using h e he
  rw [importanceOf, hfind]

/-! ## Accepted settings -/

/-- An accepted entry names a language. -/
theorem exists_ofName? (h : settings.isValid = true) {entry : String × K}
    (hentry : entry ∈ settings.importance.entries) :
    ∃ language, Language.ofName? entry.1 = some language := by
  have hproblem := ((isValid_iff settings).1 h).2.1 entry hentry
  unfold importanceProblem? at hproblem
  split at hproblem
  · cases hproblem
  · next hsome => exact Option.ne_none_iff_exists'.1 fun hnone => hsome (by rw [hnone]; rfl)

/-- An accepted multiplier is positive and finite. -/
theorem pos_and_isFinite_of_problem?_eq_none [FiniteScalar K] {name : String} {multiplier : K}
    (h : importanceProblem? name multiplier = none) :
    0.0 < multiplier ∧ isFinite multiplier = true := by
  unfold importanceProblem? at h
  split at h
  · cases h
  · split at h
    · cases h
    · next hgood =>
      simp only [Bool.or_eq_true, Bool.not_eq_true', decide_eq_true_eq, not_or,
        Bool.not_eq_false] at hgood
      obtain ⟨hfinite, hpos⟩ := hgood
      have hnumber := FiniteScalar.number_of_isFinite multiplier hfinite
      have hzero : (0.0 : K) ≤ 0.0 := (ComparableScalar.number_of_le _ _
        ((ComparableScalar.lt_iff _ _).1 (FiniteScalar.zero_lt_one (K := K))).1).1
      refine ⟨(ComparableScalar.lt_iff _ _).2 ⟨?_, hpos⟩, hfinite⟩
      exact (ComparableScalar.le_total _ _ hzero hnumber).resolve_right hpos

/-- The importance of every language is positive and finite. -/
theorem importanceOf_pos_and_isFinite [FiniteScalar K] (h : settings.isValid = true)
    (language : Language) :
    0.0 < settings.importanceOf language ∧ isFinite (settings.importanceOf language) = true := by
  by_cases hnamed : ∃ entry ∈ settings.importance.entries, Language.ofName? entry.1 = some language
  · obtain ⟨entry, hentry, hname⟩ := hnamed
    obtain ⟨first, hfirst, -, hvalue⟩ := exists_importanceOf hentry hname
    rw [hvalue]
    exact pos_and_isFinite_of_problem?_eq_none (((isValid_iff settings).1 h).2.1 first hfirst)
  · have hunnamed : settings.importanceOf language = 1.0 :=
      importanceOf_of_unnamed fun entry hentry hname => hnamed ⟨entry, hentry, hname⟩
    rw [hunnamed]
    exact ⟨FiniteScalar.zero_lt_one, FiniteScalar.isFinite_one⟩

/-- **When the listed multipliers take effect.** In accepted settings every entry takes effect
exactly if entries that name the same language have the same multiplier. In any case every entry
names a language, the first entry that names a language takes effect, a language that no entry names
has the importance one, and every importance is positive and finite. -/
theorem takesEffect_iff [FiniteScalar K] (h : settings.isValid = true) :
    ((∀ entry ∈ settings.importance.entries, settings.TakesEffect entry) ↔ settings.NamesAgree) ∧
      (∀ before entry after, settings.importance.entries = before ++ entry :: after →
        (∀ earlier ∈ before, Language.ofName? earlier.1 ≠ Language.ofName? entry.1) →
        settings.TakesEffect entry) ∧
      (∀ language,
        (∀ entry ∈ settings.importance.entries, Language.ofName? entry.1 ≠ some language) →
        settings.importanceOf language = 1.0) ∧
      ∀ language, 0.0 < settings.importanceOf language ∧
        isFinite (settings.importanceOf language) = true := by
  refine ⟨⟨fun heffect entry hentry other hother hsame => ?_, fun hagree entry hentry => ?_⟩,
    fun before entry after hentries hbefore => ?_, fun _ => importanceOf_of_unnamed,
    importanceOf_pos_and_isFinite h⟩
  · obtain ⟨language, hname, hvalue⟩ := heffect entry hentry
    obtain ⟨language', hname', hvalue'⟩ := heffect other hother
    obtain rfl : language = language' := Option.some.inj (by rw [← hname, hsame, hname'])
    rw [← hvalue, hvalue']
  · obtain ⟨language, hname⟩ := exists_ofName? h hentry
    obtain ⟨first, hfirst, hfirstName, hvalue⟩ := exists_importanceOf hentry hname
    refine ⟨language, hname, ?_⟩
    rw [hvalue]
    exact hagree first hfirst entry hentry (by rw [hfirstName, hname])
  · have hentry : entry ∈ settings.importance.entries := by
      rw [hentries]
      exact List.mem_append_right _ List.mem_cons_self
    obtain ⟨language, hname⟩ := exists_ofName? h hentry
    rw [hname] at hbefore
    exact ⟨language, hname, importanceOf_first hentries hbefore hname⟩

/-- The alias of one language and the key of another, in floating-point numbers. -/
theorem takesEffect_iff_alias :
    let settings : Settings Float :=
      { standard with importance := .ofList [("Golang", 2.0), ("ruby", 0.5)] }
    settings.isValid = true ∧ settings.TakesEffect ("Golang", 2.0) ∧
      settings.TakesEffect ("ruby", 0.5) ∧ settings.importanceOf .java = 1.0 ∧
      0.0 < settings.importanceOf .go ∧ isFinite (settings.importanceOf .go) = true := by
  intro settings
  have hvalid : settings.isValid = true := by decide +kernel
  have hentries : settings.importance.entries = [("Golang", 2.0), ("ruby", 0.5)] := by
    decide +kernel
  have hagree : settings.NamesAgree := by
    unfold NamesAgree
    rw [hentries]
    decide +kernel
  obtain ⟨hiff, -, hunnamed, hpos⟩ := takesEffect_iff hvalid
  have heffect := hiff.2 hagree
  rw [hentries] at heffect hunnamed
  exact ⟨hvalid, heffect _ List.mem_cons_self,
    heffect _ (List.mem_cons_of_mem _ List.mem_cons_self), hunnamed .java (by decide +kernel),
    hpos .go⟩

/-- Two names of one language: the settings are accepted, and the second multiplier is without
effect. -/
theorem second_name_without_effect :
    let settings : Settings Float :=
      { standard with importance := .ofList [("Go", 2.0), ("go", 3.0)] }
    settings.isValid = true ∧ ("go", 3.0) ∈ settings.importance.entries ∧
      Language.ofName? "go" = some .go ∧ settings.importanceOf .go = 2.0 ∧
      ¬ settings.TakesEffect ("go", 3.0) := by
  intro settings
  have hentries : settings.importance.entries = [("Go", 2.0), ("go", 3.0)] := by decide +kernel
  have hname : Language.ofName? "go" = some .go := by decide +kernel
  have hvalue : settings.importanceOf .go = 2.0 := by decide +kernel
  have hmem : ("go", 3.0) ∈ settings.importance.entries := by
    rw [hentries]
    exact List.mem_cons_of_mem _ List.mem_cons_self
  refine ⟨by decide +kernel, hmem, hname, hvalue, ?_⟩
  rintro ⟨language, hlanguage, heffect⟩
  obtain rfl : .go = language := Option.some.inj (hname.symm.trans hlanguage)
  rw [hvalue] at heffect
  exact absurd heffect (by decide +kernel)

end Settings

end Affinity
