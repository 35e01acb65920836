import Mathlib
import Affinity.Finding.DesignPatterns
import Affinity.Proofs.Scalar.Exact
import Affinity.Proofs.Table.Laws

/-!
# Findings of anti-patterns

A class that grows, a function that grows and is left early less often, a file with more numbers
without a name: none of these can take an anti-pattern away or make it cheaper. So a repository that
is no better in any of its parts has every anti-pattern of the other one, each at no smaller
penalty, and the penalty of the whole grows while the score falls. Test files have no anti-patterns
at all.

* `OutweighedBy` — each instance of one list has one in the other that costs at least as much.
* `outweighedBy_classInstances`, `outweighedBy_functionInstances` — what a class and a function that
  are no better show.
* `outweighedBy_fileInstances` — what a file shows none of whose parts is better.
* `PatternReport.ofFiles_antitone` — penalties and scores of repositories that are no better, and of
  those that differ in their test files.
-/

namespace Affinity

open Scalar

/-! ## Repositories that are no better -/

/-- A class with at least as many methods and lines. -/
structure ClassFacts.NoBetter (c d : ClassFacts) : Prop where
  methods : c.methods ≤ d.methods
  lines : c.lines ≤ d.lines

/-- A function with at least as many lines, nesting and parameters and no more early returns. -/
structure FunctionFacts.NoBetter (f g : FunctionFacts) : Prop where
  lines : f.lines ≤ g.lines
  maxNesting : f.maxNesting ≤ g.maxNesting
  params : f.params ≤ g.params
  earlyReturns : g.earlyReturns ≤ f.earlyReturns

/-- A file with the same design patterns none of whose classes and functions is better. -/
structure FileFacts.NoBetter (a b : FileFacts) : Prop where
  isTestFile : b.tests.isTestFile = a.tests.isTestFile
  patterns : b.patterns = a.patterns
  classes : List.Forall₂ ClassFacts.NoBetter a.classes b.classes
  functions : List.Forall₂ FunctionFacts.NoBetter a.functions b.functions
  magicNumbers : a.magicNumbers ≤ b.magicNumbers

/-- The same file, but for the classes, functions and numbers without a name of a test file. -/
def FileFacts.SameButInTests (a b : FileFacts) : Prop :=
  b = a ∨ a.tests.isTestFile = true ∧
    ∃ classes functions magicNumbers, b = { a with classes, functions, magicNumbers }

/-! ## Instances that cost at least as much -/

section

variable {K : Type} [Scalar K] (thresholds : Thresholds K)

/-- The anti-patterns of some files. -/
def instancesIn (files : List FileFacts) : List (AntiPatternInstance K) :=
  files.flatMap (fileInstances thresholds)

theorem PatternReport.antiPatternCount_ofFiles (files : List FileFacts) :
    (ofFiles thresholds files).antiPatternCount = (instancesIn thresholds files).length := by
  show (Table.tally _).total = _
  rw [Table.total_tally, List.length_map]
  rfl

end

variable {K : Type} [ExactScalar K]

/-- In the order of the first list, each of its instances has one in the second list that costs at
least as much. -/
abbrev OutweighedBy (found others : List (AntiPatternInstance K)) : Prop :=
  List.SublistForall₂ (fun i j => i.penalty ≤ j.penalty) found others

namespace OutweighedBy

variable {found others more further : List (AntiPatternInstance K)}

theorem length_le (h : OutweighedBy found others) : found.length ≤ others.length := by
  obtain ⟨l, hl, hsub⟩ := List.sublistForall₂_iff.1 h
  rw [hl.length_eq]
  exact hsub.length_le

theorem sum_le (h : OutweighedBy found others) (hnonneg : ∀ i ∈ others, 0 ≤ i.penalty) :
    (found.map (·.penalty)).sum ≤ (others.map (·.penalty)).sum := by
  refine List.SublistForall₂.sum_le_sum ?_ ?_
  · rw [List.sublistForall₂_map_left_iff, List.sublistForall₂_map_right_iff]
    exact h
  · rintro x hx
    obtain ⟨i, hi, rfl⟩ := List.mem_map.1 hx
    exact hnonneg i hi

theorem append (h : OutweighedBy found others) (h' : OutweighedBy more further) :
    OutweighedBy (found ++ more) (others ++ further) := by
  induction h with
  | nil =>
    rename_i l
    induction l with
    | nil => exact h'
    | cons i l ih => exact .cons_right ih
  | cons hij _ ih => exact .cons hij ih
  | cons_right _ ih => exact .cons_right ih

/-- An instance that is there under a condition. -/
theorem ite {p q : Prop} [Decidable p] [Decidable q] {i j : AntiPatternInstance K} (hpq : p → q)
    (hij : p → i.penalty ≤ j.penalty) :
    OutweighedBy (if p then [i] else []) (if q then [j] else []) := by
  by_cases hp : p
  · rw [if_pos hp, if_pos (hpq hp)]
    exact .cons (hij hp) .nil
  · rw [if_neg hp]
    exact .nil

theorem flatMap {α : Type} {R : α → α → Prop} {f : α → List (AntiPatternInstance K)} {l m : List α}
    (h : List.Forall₂ R l m) (hf : ∀ a b, R a b → OutweighedBy (f a) (f b)) :
    OutweighedBy (l.flatMap f) (m.flatMap f) := by
  induction h with
  | nil => exact .nil
  | cons hab _ ih => exact (hf _ _ hab).append ih

end OutweighedBy

/-! ## What the parts of a repository show -/

variable (thresholds : Thresholds K)

theorem godClassPenalty_mono {c d : ClassFacts} (h : c.NoBetter d) :
    godClassPenalty thresholds c ≤ godClassPenalty thresholds d := by
  have hmethods : ((c.methods - thresholds.godClassMethods : ℕ) : K) ≤
      (d.methods - thresholds.godClassMethods : ℕ) :=
    Nat.cast_le.2 (Nat.sub_le_sub_right h.methods _)
  have hlines : ((c.lines - thresholds.godClassLines : ℕ) : K) ≤
      (d.lines - thresholds.godClassLines : ℕ) := Nat.cast_le.2 (Nat.sub_le_sub_right h.lines _)
  unfold godClassPenalty
  simp only [literal_eq]
  norm_num
  gcongr

theorem outweighedBy_classInstances {c d : ClassFacts} (h : c.NoBetter d) :
    OutweighedBy (classInstances thresholds c) (classInstances thresholds d) := by
  refine .ite (fun hgod => ?_) fun _ => godClassPenalty_mono thresholds h
  rw [ClassFacts.isGodClass, Bool.or_eq_true, decide_eq_true_iff, decide_eq_true_iff] at hgod ⊢
  exact hgod.imp (fun hm => hm.trans_le h.methods) fun hl => hl.trans_le h.lines

theorem outweighedBy_functionInstances {f g : FunctionFacts} (h : f.NoBetter g) :
    OutweighedBy (functionInstances thresholds f) (functionInstances thresholds g) := by
  refine .append (.ite (fun htangled => ?_) fun _ => le_refl _)
    (.ite (fun hlong => ?_) fun _ => le_refl _)
  · rw [FunctionFacts.isTangled, Bool.and_eq_true, Bool.or_eq_true, decide_eq_true_iff,
      decide_eq_true_iff, decide_eq_true_iff] at htangled ⊢
    obtain ⟨hsize, hnever⟩ := htangled
    refine ⟨hsize.imp (fun hl => hl.trans_le h.lines) fun hn => hn.trans_le h.maxNesting, ?_⟩
    exact Nat.le_zero.1 (hnever ▸ h.earlyReturns)
  · rw [FunctionFacts.hasLongParameterList, decide_eq_true_iff] at hlong ⊢
    exact hlong.trans_le h.params

theorem outweighedBy_fileInstances {a b : FileFacts} (h : a.NoBetter b) :
    OutweighedBy (fileInstances thresholds a) (fileInstances thresholds b) := by
  rw [fileInstances, fileInstances, h.isTestFile]
  split
  · exact .nil
  · refine .append (.append ?_ ?_) (.ite (fun hmany => ?_) fun _ => le_refl _)
    · exact .flatMap h.classes fun _ _ => outweighedBy_classInstances thresholds
    · exact .flatMap h.functions fun _ _ => outweighedBy_functionInstances thresholds
    · exact hmany.trans_le h.magicNumbers

theorem penalty_nonneg {file : FileFacts} {i : AntiPatternInstance K}
    (hi : i ∈ fileInstances thresholds file) : 0 ≤ i.penalty := by
  have hgod : ∀ c : ClassFacts, 0 ≤ godClassPenalty thresholds c := fun c => by
    unfold godClassPenalty
    simp only [literal_eq]
    positivity
  have hliteral : ∀ n : ℕ, 0 ≤ (Scalar.toOfScientific.ofScientific n true 1 : K) := fun n => by
    rw [literal_eq]
    positivity
  simp only [fileInstances, classInstances, functionInstances, List.mem_ite_nil_left,
    List.mem_append, List.mem_flatMap, List.mem_ite_nil_right, List.mem_singleton] at hi
  rcases hi with ⟨-, (⟨c, -, -, rfl⟩ | ⟨f, -, ⟨-, rfl⟩ | ⟨-, rfl⟩⟩) | ⟨-, rfl⟩⟩
  · exact hgod c
  · exact hliteral 60
  · exact hliteral 30
  · exact hliteral 20

theorem outweighedBy_instancesIn {files others : List FileFacts}
    (h : List.Forall₂ FileFacts.NoBetter files others) :
    OutweighedBy (instancesIn thresholds files) (instancesIn thresholds others) :=
  .flatMap h fun _ _ => outweighedBy_fileInstances thresholds

/-! ## Files that show the same -/

theorem map_eq_of_forall₂ {α β : Type} {R : α → α → Prop} {f : α → β} {l m : List α}
    (h : List.Forall₂ R l m) (hf : ∀ a b, R a b → f b = f a) : m.map f = l.map f := by
  induction h with
  | nil => rfl
  | cons hab _ ih => rw [List.map_cons, List.map_cons, hf _ _ hab, ih]

/-- Such files show the same design patterns and anti-patterns. -/
theorem FileFacts.SameButInTests.shows {a b : FileFacts} (h : a.SameButInTests b) :
    b.path = a.path ∧ b.tests.isTestFile = a.tests.isTestFile ∧ b.patterns = a.patterns ∧
      fileInstances thresholds b = fileInstances thresholds a := by
  rcases h with rfl | ⟨htest, classes, functions, magicNumbers, rfl⟩
  · exact ⟨rfl, rfl, rfl, rfl⟩
  · exact ⟨rfl, rfl, rfl, by rw [fileInstances, fileInstances, if_pos htest, if_pos htest]⟩

namespace PatternReport

/-- The design patterns of some files. -/
def designPatternsIn (files : List FileFacts) : Table String Nat :=
  files.foldl (fun table f => table.addAll f.patterns) {}

theorem designPatternsIn_congr {files others : List FileFacts}
    (h : others.map (·.patterns) = files.map (·.patterns)) :
    designPatternsIn others = designPatternsIn files := by
  rw [designPatternsIn, ← List.foldl_map (f := FileFacts.patterns), h, List.foldl_map]
  rfl

theorem productionFiles_congr {files others : List FileFacts}
    (h : others.map (·.tests.isTestFile) = files.map (·.tests.isTestFile)) :
    productionFiles others = productionFiles files := by
  have hcount : ∀ l : List FileFacts,
      productionFiles l = (l.map (·.tests.isTestFile)).countP fun test => !test := fun l => by
    rw [List.countP_map]
    rfl
  rw [hcount, hcount, h]

/-- The paths and names of the god classes of some files. -/
def godClassesIn (files : List FileFacts) : List String :=
  files.flatMap fun file =>
    ((fileInstances thresholds file).filterMap (·.className)).map fun name =>
      file.path ++ "::" ++ name

theorem ofFiles_eq (files : List FileFacts) :
    ofFiles thresholds files =
      { score := clampScore (100.0 + bonus (designPatternsIn files).size -
          (instancesIn thresholds files).foldl (fun sum i => sum + i.penalty) 0.0 /
            penaltyBlocks (productionFiles files))
        designPatterns := designPatternsIn files
        antiPatterns := .tally ((instancesIn thresholds files).map (·.kind.key))
        godClasses := godClassesIn thresholds files
        penalty := (instancesIn thresholds files).foldl (fun sum i => sum + i.penalty) 0.0 /
          penaltyBlocks (productionFiles files) } := rfl

/-- The penalty is the sum of those of the instances, spread over blocks of ten production files. -/
theorem penalty_ofFiles (files : List FileFacts) :
    (ofFiles thresholds files).penalty =
      ((instancesIn thresholds files).map (·.penalty)).sum /
        max ((productionFiles files : K) / 10) 1 := by
  show (instancesIn thresholds files).foldl (fun sum i => sum + i.penalty) 0.0 /
    penaltyBlocks (productionFiles files) = _
  rw [foldl_add_eq, penaltyBlocks, greatest_eq_max]
  simp only [literal_eq]
  norm_num

theorem score_ofFiles (files : List FileFacts) :
    (ofFiles thresholds files).score =
      clampScore (100.0 + bonus (designPatternsIn files).size -
        (ofFiles thresholds files).penalty) :=
  rfl

/-- Repositories of files that are no better have no smaller penalty. -/
theorem penalty_le_penalty {files others : List FileFacts}
    (h : List.Forall₂ FileFacts.NoBetter files others) :
    (ofFiles thresholds files).penalty ≤ (ofFiles thresholds others).penalty := by
  have hproduction : productionFiles others = productionFiles files :=
    productionFiles_congr (map_eq_of_forall₂ h fun _ _ hab => hab.isTestFile)
  have hsum := (outweighedBy_instancesIn thresholds h).sum_le fun i hi => by
    obtain ⟨file, -, hfile⟩ := List.mem_flatMap.1 hi
    exact penalty_nonneg thresholds hfile
  rw [penalty_ofFiles, penalty_ofFiles, hproduction]
  gcongr

/-- **Penalty, count and score of a repository** none of whose files is better: at least the penalty
and the anti-patterns of the other one and at most its score. What the classes and functions of test
files are, and how many numbers without a name they hold, changes nothing in the report. -/
theorem ofFiles_antitone (files others : List FileFacts) :
    (List.Forall₂ FileFacts.NoBetter files others →
      (ofFiles thresholds files).penalty ≤ (ofFiles thresholds others).penalty ∧
        (ofFiles thresholds files).antiPatternCount ≤ (ofFiles thresholds others).antiPatternCount ∧
        (ofFiles thresholds others).score ≤ (ofFiles thresholds files).score) ∧
      (List.Forall₂ FileFacts.SameButInTests files others →
        ofFiles thresholds others = ofFiles thresholds files) := by
  constructor
  · intro h
    have hpenalty := penalty_le_penalty thresholds h
    have hpatterns : designPatternsIn others = designPatternsIn files :=
      designPatternsIn_congr (map_eq_of_forall₂ h fun _ _ hab => hab.patterns)
    refine ⟨hpenalty, ?_, ?_⟩
    · rw [antiPatternCount_ofFiles, antiPatternCount_ofFiles]
      exact (outweighedBy_instancesIn thresholds h).length_le
    · rw [score_ofFiles, score_ofFiles, hpatterns]
      exact clampScore_mono (sub_le_sub_left hpenalty _)
  · intro h
    -- every part of the report is made of what such files have in common
    have hpatterns : designPatternsIn others = designPatternsIn files :=
      designPatternsIn_congr (map_eq_of_forall₂ h fun _ _ hab => (hab.shows thresholds).2.2.1)
    have hproduction : productionFiles others = productionFiles files :=
      productionFiles_congr (map_eq_of_forall₂ h fun _ _ hab => (hab.shows thresholds).2.1)
    have hfound : instancesIn thresholds others = instancesIn thresholds files := by
      rw [instancesIn, List.flatMap_def,
        map_eq_of_forall₂ h fun _ _ hab => (hab.shows thresholds).2.2.2, ← List.flatMap_def]
      rfl
    have hgod : godClassesIn thresholds others = godClassesIn thresholds files := by
      rw [godClassesIn, List.flatMap_def, map_eq_of_forall₂ h fun a b hab => ?_, ← List.flatMap_def]
      · rfl
      · obtain ⟨hpath, -, -, hinstances⟩ := hab.shows thresholds
        rw [hpath, hinstances]
    rw [ofFiles_eq, ofFiles_eq, hpatterns, hproduction, hfound, hgod]

/-- A class and a function at the limits and past them, beside a test file that may be anything. -/
theorem ofFiles_antitone_past_limits :
    let thresholds : Thresholds ℚ := .standard
    let file (methods lines : ℕ) : FileFacts :=
      { path := "a.py", language := .python
        classes := [{ name := "Store", line := 1, methods }]
        functions := [{ name := "load", line := 9, lines, earlyReturns := 100 - lines }] }
    let test (magicNumbers : ℕ) : FileFacts :=
      { path := "test_a.py", language := .python, tests := { isTestFile := true }, magicNumbers }
    let within := ofFiles thresholds [file 20 80, test 0]
    let past := ofFiles thresholds [file 30 100, test 0]
    within.antiPatternCount = 0 ∧ past.antiPatternCount = 2 ∧
      within.penalty ≤ past.penalty ∧ past.score ≤ within.score ∧
      ofFiles thresholds [file 30 100, test 9] = past := by
  intro thresholds file test within past
  have hworse : List.Forall₂ FileFacts.NoBetter [file 20 80, test 0] [file 30 100, test 0] := by
    refine .cons ⟨rfl, rfl, ?_, ?_, le_refl _⟩ (.cons ⟨rfl, rfl, .nil, .nil, le_refl _⟩ .nil)
    · exact .cons ⟨by decide, le_refl _⟩ .nil
    · exact .cons ⟨by decide, le_refl _, le_refl _, by decide⟩ .nil
  have hsame : List.Forall₂ FileFacts.SameButInTests [file 30 100, test 0] [file 30 100, test 9] :=
    .cons (.inl rfl) (.cons (.inr ⟨rfl, [], [], 9, rfl⟩) .nil)
  obtain ⟨hpenalty, -, hscore⟩ := (ofFiles_antitone thresholds _ _).1 hworse
  refine ⟨?_, ?_, hpenalty, hscore, (ofFiles_antitone thresholds _ _).2 hsame⟩
  · rw [antiPatternCount_ofFiles]
    decide +kernel
  · rw [antiPatternCount_ofFiles]
    decide +kernel

end PatternReport

end Affinity
