import Mathlib.Data.List.Basic
import Affinity.Profile.Batch
import Affinity.Proofs.Comment.Scan
import Affinity.Proofs.Facts.Blocks
import Affinity.Proofs.Facts.Survey

/-!
# Facts that fit together

The counts of a file are taken in different passes over its rows, its blocks or its tree. Whatever
the file is, they fit together: the kinds of lines make up the file, what is counted among some
things is no more than they are, and what is counted of a function agrees with its depths.

* `FileFacts.WellFormed` — the relations between the counts.
* `Rules.extractRows_wellFormed`, `Python.treeFacts_wellFormed` — facts by pattern rules and by a
  tree.
* `SourceFile.facts_wellFormed` — the facts about any file.
-/

namespace Affinity

/-- The counts of a file fit together; `lineCount` is the number of its lines. -/
structure FileFacts.WellFormed (facts : FileFacts) (lineCount : Nat) : Prop where
  /-- Every line is of one kind. -/
  kinds : facts.lines.code + facts.lines.comment + facts.lines.doc + facts.lines.blank =
    facts.lines.total
  total : facts.lines.total = lineCount
  conventional : facts.naming.conventional ≤ facts.naming.total
  short : facts.naming.short ≤ facts.naming.total
  docs : facts.docs.documentedSymbols ≤ facts.docs.publicSymbols
  errors : facts.errors.guarded ≤ facts.errors.risk
  types : ∀ types, facts.types = some types → types.annotated ≤ types.annotatable
  indents : facts.style.tabLines + facts.style.spaceLines ≤ facts.lines.code
  braces : facts.style.braceSameLine + facts.style.braceNextLine ≤ facts.lines.code
  trailing : facts.style.trailingWhitespace ≤ facts.lines.total
  fingerprints : facts.fingerprints.length ≤ facts.lines.code
  functions : AllWellFormed facts.functions

/-! ## Rows -/

theorem Rules.length_rowsOf (rules : Rules) (file : SourceFile) :
    (rules.rowsOf file).length = file.lineCount :=
  length_classifyLines ..

/-- The rows of code are counted as such. -/
theorem LineCounts.code_ofRows (rows : List Row) :
    (ofRows rows).code = (rows.filter Row.isCode).length :=
  List.countP_eq_length_filter

/-- Two tests that no member passes both. -/
theorem countP_add_countP_le {α : Type} {p q : α → Bool} {l : List α}
    (h : ∀ a ∈ l, p a = true → q a = false) : l.countP p + l.countP q ≤ l.length := by
  have hq : l.countP q ≤ l.countP fun a => !p a := by
    apply List.countP_mono_left
    intro a ha hqa
    cases hpa : p a with
    | true => rw [h a ha hpa] at hqa; cases hqa
    | false => rfl
  have hlength := List.length_eq_countP_add_countP p (l := l)
  simp only [Bool.not_eq_true, Bool.decide_eq_false] at hlength
  omega

theorem StyleFacts.indents_ofRows (content : List Char) (rows : List Row) :
    (ofRows content rows).tabLines + (ofRows content rows).spaceLines ≤
      (LineCounts.ofRows rows).code := by
  rw [LineCounts.code_ofRows]
  apply countP_add_countP_le
  intro row _ htab
  rw [beq_iff_eq.1 htab]
  rfl

theorem StyleFacts.braces_ofRows (content : List Char) (rows : List Row) :
    (ofRows content rows).braceSameLine + (ofRows content rows).braceNextLine ≤
      (LineCounts.ofRows rows).code := by
  rw [LineCounts.code_ofRows]
  apply countP_add_countP_le
  intro row _ hsame
  rw [Bool.and_eq_true] at hsame
  simpa using hsame.2

theorem StyleFacts.trailing_ofRows (content : List Char) (rows : List Row) :
    (ofRows content rows).trailingWhitespace ≤ (LineCounts.ofRows rows).total :=
  List.countP_le_length

theorem length_fingerprints_le (rows : List Row) :
    (fingerprints rows).length ≤ (LineCounts.ofRows rows).code := by
  unfold fingerprints
  rw [List.length_map, ← List.countP_eq_length_filter]
  apply List.countP_mono_left
  intro row _ hrow
  rw [Bool.and_eq_true] at hrow
  exact hrow.1

/-! ## Names, symbols and annotations -/

/-- Conventional and short names are among the names. -/
structure NamingFacts.WellFormed (naming : NamingFacts) : Prop where
  conventional : naming.conventional ≤ naming.total
  short : naming.short ≤ naming.total

namespace NamingFacts.WellFormed

theorem empty : NamingFacts.WellFormed {} := ⟨Nat.le_refl 0, Nat.le_refl 0⟩

theorem record {naming : NamingFacts} (h : naming.WellFormed) (casings : List Casing)
    (name : List Char) : (naming.record casings name).WellFormed where
  conventional := by
    have hbefore := h.conventional
    unfold NamingFacts.record
    simp only
    split <;> omega
  short := by
    have hbefore := h.short
    unfold NamingFacts.record
    simp only
    split <;> omega

/-- Recording names one after the other. -/
theorem records {α : Type} {naming : NamingFacts} (h : naming.WellFormed)
    {take : NamingFacts → α → NamingFacts}
    (htake : ∀ naming a, ∃ casings name, take naming a = naming.record casings name)
    (names : List α) : (names.foldl take naming).WellFormed := by
  apply List.foldlRecOn _ _ h
  intro naming hnaming a _
  obtain ⟨casings, name, hrecord⟩ := htake naming a
  rw [hrecord]
  exact hnaming.record casings name

end NamingFacts.WellFormed

theorem Rules.naming_wellFormed (rules : Rules) (declarations : List (Nat × Declaration))
    (rows : List Row) : (rules.naming declarations rows).WellFormed := by
  unfold Rules.naming
  apply NamingFacts.WellFormed.records
  · apply NamingFacts.WellFormed.empty.records
    rintro naming ⟨line, declaration⟩
    cases declaration with
    | function name params receiver => exact ⟨_, _, rfl⟩
    | classLike name => exact ⟨_, _, rfl⟩
  · intro naming name
    exact ⟨_, _, rfl⟩

theorem Python.Survey.naming_wellFormed (s : Survey) : s.naming.WellFormed := by
  unfold Survey.naming
  apply NamingFacts.WellFormed.records
  · apply NamingFacts.WellFormed.empty.records
    rintro naming ⟨casings, name⟩
    exact ⟨_, _, rfl⟩
  · intro naming name
    exact ⟨_, _, rfl⟩

theorem selectorNaming_wellFormed (rows : List Row) : (selectorNaming rows).WellFormed := by
  apply NamingFacts.WellFormed.empty.records
  intro naming name
  exact ⟨_, _, rfl⟩

theorem Rules.documented_le_public (rules : Rules) (declarations : List (Nat × Declaration))
    (rows : List Row) :
    (rules.docs declarations rows).documentedSymbols ≤
      (rules.docs declarations rows).publicSymbols :=
  List.countP_le_length

namespace TypeFacts

/-- The annotated places are among the places. -/
def WellFormed (types : TypeFacts) : Prop := types.annotated ≤ types.annotatable

theorem WellFormed.add {a b : TypeFacts} (ha : a.WellFormed) (hb : b.WellFormed) :
    (a.add b).WellFormed :=
  Nat.add_le_add ha hb

theorem wellFormed_place (annotated : Bool) : (place annotated).WellFormed := by
  cases annotated with
  | false => exact Nat.zero_le 1
  | true => exact Nat.le_refl 1

theorem wellFormed_sum {parts : List TypeFacts} (h : ∀ part ∈ parts, part.WellFormed) :
    (sum parts).WellFormed :=
  List.foldlRecOn _ _ (Nat.le_refl 0) fun _ htypes part hpart => htypes.add (h part hpart)

theorem wellFormed_ofParameters (params : List Char) : (ofParameters params).WellFormed := by
  apply wellFormed_sum
  intro part hpart
  obtain ⟨text, -, rfl⟩ := List.mem_map.1 hpart
  exact wellFormed_place _

theorem wellFormed_ofCode (code : List Char) : (ofCode code).WellFormed := by
  unfold ofCode
  extract_lets text functions bindings
  apply WellFormed.add
  · apply wellFormed_sum
    intro part hpart
    obtain ⟨found, -, rfl⟩ := List.mem_map.1 hpart
    exact (wellFormed_ofParameters _).add (wellFormed_place _)
  · apply wellFormed_sum
    intro part hpart
    obtain ⟨found, -, rfl⟩ := List.mem_map.1 hpart
    exact wellFormed_place _

end TypeFacts

theorem typeAnnotations_wellFormed (rows : List Row) : (typeAnnotations rows).WellFormed := by
  apply TypeFacts.wellFormed_sum
  intro part hpart
  obtain ⟨row, -, rfl⟩ := List.mem_map.1 hpart
  exact TypeFacts.wellFormed_ofCode row.code

/-! ## Files -/

/-- Facts whose lines, layout and fingerprints are those of some rows. -/
theorem FileFacts.wellFormed_ofRows {facts : FileFacts} {content : List Char} {rows : List Row}
    (hlines : facts.lines = .ofRows rows) (hstyle : facts.style = .ofRows content rows)
    (hfingerprints : facts.fingerprints = Affinity.fingerprints rows)
    (hnaming : facts.naming.WellFormed)
    (hdocs : facts.docs.documentedSymbols ≤ facts.docs.publicSymbols)
    (herrors : facts.errors.guarded ≤ facts.errors.risk)
    (htypes : ∀ types, facts.types = some types → types.WellFormed)
    (hfunctions : AllWellFormed facts.functions) : facts.WellFormed rows.length where
  kinds := hlines ▸ LineCounts.kinds_ofRows rows
  total := hlines ▸ rfl
  conventional := hnaming.conventional
  short := hnaming.short
  docs := hdocs
  errors := herrors
  types := htypes
  indents := by
    rw [hlines, hstyle]
    exact StyleFacts.indents_ofRows content rows
  braces := by
    rw [hlines, hstyle]
    exact StyleFacts.braces_ofRows content rows
  trailing := by
    rw [hlines, hstyle]
    exact StyleFacts.trailing_ofRows content rows
  fingerprints := by
    rw [hlines, hfingerprints]
    exact length_fingerprints_le rows
  functions := hfunctions

/-- The facts that any pattern rules find. -/
theorem Rules.extractRows_wellFormed (rules : Rules) (file : SourceFile) (rows : List Row) :
    (rules.extractRows file rows).WellFormed rows.length := by
  obtain ⟨hfunctions, herrors⟩ := rules.scanBlocks_wellFormed rows
  exact FileFacts.wellFormed_ofRows rfl rfl rfl (rules.naming_wellFormed _ rows)
    (rules.documented_le_public _ rows) herrors nofun hfunctions

theorem Rules.extract_wellFormed (rules : Rules) (file : SourceFile) :
    (rules.extract file).WellFormed file.lineCount := by
  rw [← rules.length_rowsOf file]
  exact rules.extractRows_wellFormed file (rules.rowsOf file)

/-- The facts that are found in the tree of any program. -/
theorem Python.treeFacts_wellFormed (file : SourceFile) (rows : List Row) (root : SyntaxTree) :
    (treeFacts file rows root).WellFormed rows.length := by
  have hsurvey := survey_good root
  exact FileFacts.wellFormed_ofRows rfl rfl rfl (Survey.naming_wellFormed _) hsurvey.docs
    hsurvey.errors nofun hsurvey.functions

namespace FileFacts.WellFormed

variable {facts : FileFacts} {lineCount : Nat}

theorem withCommentsAsDoc (h : facts.WellFormed lineCount) :
    facts.withCommentsAsDoc.WellFormed lineCount :=
  { h with }

theorem withFallback (h : facts.WellFormed lineCount) (fallback : Bool) :
    WellFormed { facts with fallback } lineCount :=
  { h with }

theorem withNaming (h : facts.WellFormed lineCount) {naming : NamingFacts}
    (hnaming : naming.WellFormed) : WellFormed { facts with naming } lineCount :=
  { h with conventional := hnaming.conventional, short := hnaming.short }

theorem withTypes (h : facts.WellFormed lineCount) {types : TypeFacts}
    (htypes : types.WellFormed) : WellFormed { facts with types := some types } lineCount :=
  { h with types := by rintro _ ⟨⟩; exact htypes }

end FileFacts.WellFormed

/-- The facts by the rules of the language of a file. -/
theorem SourceFile.ruleFacts_wellFormed (file : SourceFile) :
    file.ruleFacts.WellFormed file.lineCount := by
  unfold ruleFacts
  extract_lets rules rows facts
  have hrules : facts.WellFormed file.lineCount := rules.extract_wellFormed file
  split
  · exact hrules.withTypes (typeAnnotations_wellFormed rows)
  · exact hrules.withCommentsAsDoc
  · exact (hrules.withNaming (selectorNaming_wellFormed rows)).withCommentsAsDoc
  · exact hrules

/-- **The facts about a file fit together**, whatever its language and its text are, and whatever
the grammar of Python reads in it. A Python file may have any tree, and its facts may be found by
the pattern rules as well. -/
theorem SourceFile.facts_wellFormed [Python.Grammar] (file : SourceFile) :
    file.facts.WellFormed file.lineCount ∧
      (∀ root, (Python.treeFacts file (Rules.python.rowsOf file) root).WellFormed
        file.lineCount) ∧
      ∀ fallback, FileFacts.WellFormed { file.ruleFacts with fallback } file.lineCount := by
  have htree : ∀ root, (Python.treeFacts file (Rules.python.rowsOf file) root).WellFormed
      file.lineCount := by
    intro root
    rw [← Rules.length_rowsOf Rules.python file]
    exact Python.treeFacts_wellFormed ..
  have hrules : file.ruleFacts.WellFormed file.lineCount := ruleFacts_wellFormed file
  refine ⟨?_, htree, hrules.withFallback⟩
  unfold SourceFile.facts Python.facts
  split
  · extract_lets rows
    split
    · next root _ => exact htree root
    · exact (Rules.python.extract_wellFormed file).withFallback true
  · exact hrules

end Affinity
