import Mathlib.Data.List.Basic
import Affinity.Source.FileSet

/-!
# What becomes of each delivery

Every delivery has exactly one fate. A file is kept exactly if it is not excluded, not too large and
a text in a known language; then the kept files are chosen from language by language.

* `RawFile.fate_eq_kept_iff` — which files are kept.
* `length_eq_of_fates` — every fate is counted once.
* `files_ofFates`, `warnings_ofFates`, `truncated_ofFates` — a file set from the choices within its
  languages.
-/

namespace Affinity

/-! ## Single files -/

theorem RawFile.decode_eq_ok_iff {file : RawFile} {decoded : SourceFile} :
    file.decode = .ok decoded ↔
      ∃ language text, Language.detect? file.path = some language ∧
        Utf8.decode file.bytes = .ok text ∧
        decoded = ⟨file.path, language, String.ofList (dropByteOrderMark text)⟩ := by
  unfold RawFile.decode
  cases hlanguage : Language.detect? file.path with
  | none => simp
  | some language =>
    cases htext : Utf8.decode file.bytes with
    | error offset => simp
    | ok text => simp [eq_comm]

/-- **A file is kept exactly if** it is not excluded, not too large, and can be decoded. -/
theorem RawFile.fate_eq_kept_iff {globs : List Glob} {limits : Limits} {file : RawFile}
    {decoded : SourceFile} :
    file.fate globs limits = .kept decoded ↔
      isExcluded globs file.path = false ∧ file.size ≤ limits.maxFileBytes ∧
        file.decode = .ok decoded := by
  unfold RawFile.fate
  by_cases hexcluded : isExcluded globs file.path = true
  · simp [hexcluded]
  by_cases hlanguage : (Language.detect? file.path).isNone = true
  · have hdecode : file.decode ≠ .ok decoded := by
      rintro h
      obtain ⟨language, -, hdetect, -⟩ := RawFile.decode_eq_ok_iff.1 h
      rw [hdetect] at hlanguage
      cases hlanguage
    simp [hexcluded, hlanguage, hdecode]
  by_cases hsize : limits.maxFileBytes < file.size
  · simp [hexcluded, hlanguage, hsize, Nat.not_le.2 hsize]
  cases hdecode : file.decode with
  | error e => simp [hexcluded, hlanguage, hsize]
  | ok other => simp [hexcluded, hlanguage, hsize, Nat.not_lt.1 hsize]

theorem Delivery.fate_eq_kept_iff {globs : List Glob} {limits : Limits} {d : Delivery}
    {decoded : SourceFile} :
    d.fate globs limits = .kept decoded ↔
      ∃ file, d = .fetched file ∧ file.fate globs limits = .kept decoded := by
  cases d with
  | fetched file => simp [Delivery.fate]
  | failed path reason => simp [Delivery.fate]

/-- The language of a kept file is the one that its path tells. -/
theorem detect?_of_fate_kept {globs : List Glob} {limits : Limits} {d : Delivery} {f : SourceFile}
    (h : d.fate globs limits = .kept f) : Language.detect? f.path = some f.language := by
  obtain ⟨file, -, hkept⟩ := Delivery.fate_eq_kept_iff.1 h
  obtain ⟨-, -, hdecode⟩ := RawFile.fate_eq_kept_iff.1 hkept
  obtain ⟨language, text, hdetect, -, rfl⟩ := RawFile.decode_eq_ok_iff.1 hdecode
  exact hdetect

/-! ## All deliveries -/

/-- **Every fate is counted once.** -/
theorem length_eq_of_fates (fates : List Fate) :
    fates.length =
      (fates.filterMap Fate.warning?).length + fates.countP Fate.isExcluded +
        (fates.filterMap Fate.unsupported?).length + (fates.filterMap Fate.kept?).length := by
  induction fates with
  | nil => rfl
  | cons fate rest ih =>
    rw [List.length_cons, ih]
    cases fate <;>
      simp [List.filterMap_cons, List.countP_cons, Fate.warning?, Fate.isExcluded,
        Fate.unsupported?, Fate.kept?] <;>
      omega

theorem Fate.kept?_eq_some_iff {fate : Fate} {f : SourceFile} :
    fate.kept? = some f ↔ fate = .kept f := by
  cases fate <;> simp [Fate.kept?]

/-- The delivered files that were read and not left out on their own account. -/
def FileSet.candidates (globs : List Glob) (limits : Limits) (deliveries : List Delivery) :
    List SourceFile :=
  (deliveries.map (Delivery.fate globs limits)).filterMap Fate.kept?

theorem mem_candidates {globs : List Glob} {limits : Limits} {deliveries : List Delivery}
    {f : SourceFile} (h : f ∈ FileSet.candidates globs limits deliveries) :
    ∃ d ∈ deliveries, d.fate globs limits = .kept f := by
  obtain ⟨fate, hfate, hkept⟩ := List.mem_filterMap.1 h
  obtain ⟨d, hd, rfl⟩ := List.mem_map.1 hfate
  exact ⟨d, hd, Fate.kept?_eq_some_iff.1 hkept⟩

/-! ## The parts of a file set -/

namespace FileSet

/-- The choice among the files of one language. -/
def choice (cap : Nat) (files : List SourceFile) (l : Language) : Selection :=
  Selection.ofFiles cap (files.filter fun f => f.language = l)

/-- The warning about a file whose path was delivered before. -/
def repeatWarning (key : String) : FileWarning := ⟨key, "duplicate path"⟩

/-- The warnings about the repeated files of one language. -/
def repeatWarnings (cap : Nat) (files : List SourceFile) (l : Language) : List FileWarning :=
  ((choice cap files l).repeated.map SourceFile.key).map repeatWarning

theorem files_ofFates (cap : Nat) (fates : List Fate) :
    (ofFates cap fates).files =
      inOrder (Language.all.flatMap fun l =>
        (choice cap (fates.filterMap Fate.kept?) l).files) := by
  show inOrder ((Language.all.map _).flatMap _) = _
  rw [List.flatMap_map]
  rfl

theorem warnings_ofFates (cap : Nat) (fates : List Fate) :
    (ofFates cap fates).coverage.warnings =
      FileWarning.ascending (fates.filterMap Fate.warning? ++
        Language.all.flatMap (repeatWarnings cap (fates.filterMap Fate.kept?))) := by
  show FileWarning.ascending (_ ++ (Language.all.map _).flatMap _) = _
  rw [List.flatMap_map]
  refine congrArg (fun w => FileWarning.ascending (_ ++ w)) (List.flatMap_congr fun l _ => ?_)
  show _ = ((choice cap _ l).repeated.map SourceFile.key).map repeatWarning
  rw [List.map_map]
  rfl

theorem warnings_ofFates_perm (cap : Nat) (fates : List Fate) :
    (ofFates cap fates).coverage.warnings.Perm (fates.filterMap Fate.warning? ++
      Language.all.flatMap (repeatWarnings cap (fates.filterMap Fate.kept?))) :=
  warnings_ofFates cap fates ▸ List.mergeSort_perm _ _

theorem map_path_repeatWarnings (cap : Nat) (files : List SourceFile) (l : Language) :
    (repeatWarnings cap files l).map FileWarning.path =
      (choice cap files l).repeated.map SourceFile.key :=
  (List.map_map ..).trans (List.map_id _)

theorem truncated_ofFates (cap : Nat) (fates : List Fate) :
    (ofFates cap fates).coverage.truncated =
      .ofList ((Language.all.map fun l =>
        (l, (choice cap (fates.filterMap Fate.kept?) l).truncated)).filter fun e => 0 < e.2) := by
  show Table.ofList (((Language.all.map _).filter _).map _) = _
  rw [List.filter_map, List.filter_map, List.map_map]
  rfl

end FileSet

end Affinity
