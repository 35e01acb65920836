import Mathlib.Logic.Basic
import Affinity.Proofs.Text.Pieces
import Affinity.Unicode

/-!
# Runs of word characters

A word of a text is a maximal run of word characters. Where texts are put together, the last run of
one and the first of the next may become a single run.

* `wordRuns` — the maximal runs of word characters of a text.
* `wordRuns_append` — texts that lie apart keep their runs.
* `cutPieces` — the pieces of texts put together, each with the parts that the texts have in it.
* `count_wordRuns_flatten` — how the runs of the whole differ from those of its texts.
-/

namespace Affinity

/-! ## Runs of word characters -/

/-- The pieces of a text between characters that belong to no word; some of them may be empty. -/
def wordPieces (text : List Char) : List (List Char) := pieces (fun c => !isWordChar c) text

/-- The maximal runs of word characters of a text. -/
def wordRuns (text : List Char) : List (List Char) := fields (fun c => !isWordChar c) text

theorem wordPieces_cons (c : Char) (text : List Char) :
    wordPieces (c :: text) =
      if isWordChar c = true then (wordPieces text).modifyHead (List.cons c)
      else [] :: wordPieces text := by
  rw [wordPieces, pieces_cons, ← wordPieces]
  cases isWordChar c <;> rfl

theorem wordPieces_ne_nil (text : List Char) : wordPieces text ≠ [] := pieces_ne_nil _ text

theorem tail_wordPieces_cons {c : Char} (hc : isWordChar c = true) (text : List Char) :
    (wordPieces (c :: text)).tail = (wordPieces text).tail := by
  rw [wordPieces_cons, if_pos hc]
  cases wordPieces text <;> rfl

/-- The first piece is what precedes the first character that belongs to no word. -/
theorem wordPieces_eq (text : List Char) :
    wordPieces text = text.takeWhile isWordChar :: (wordPieces text).tail := by
  induction text with
  | nil => rfl
  | cons c rest ih =>
    rw [wordPieces_cons, List.takeWhile_cons]
    split
    · rw [ih]
      rfl
    · rfl

/-- A run at the beginning of a text has no part in the later pieces. -/
theorem tail_wordPieces_append {run : List Char} (hrun : ∀ c ∈ run, isWordChar c = true)
    (rest : List Char) : (wordPieces (run ++ rest)).tail = (wordPieces rest).tail := by
  induction run with
  | nil => rfl
  | cons c run ih =>
    rw [List.forall_mem_cons] at hrun
    rw [List.cons_append, tail_wordPieces_cons hrun.1, ih hrun.2]

/-! ## Texts that lie apart -/

/-- No run leads from one text into the other. -/
def Apart (before behind : List Char) : Prop :=
  ¬(before.getLast?.any isWordChar = true ∧ behind.head?.any isWordChar = true)

instance (before behind : List Char) : Decidable (Apart before behind) :=
  inferInstanceAs (Decidable (¬_))

theorem wordRuns_cons_of_not {c : Char} (hc : isWordChar c = false) (text : List Char) :
    wordRuns (c :: text) = wordRuns text := by
  have hpieces : wordPieces (c :: text) = [] :: wordPieces text := by
    rw [wordPieces_cons, if_neg (by simp [hc])]
  exact congrArg (List.filter (!·.isEmpty)) hpieces

/-- A character that belongs to no word keeps runs apart. -/
theorem wordRuns_append_cons {c : Char} (hc : isWordChar c = false) (before behind : List Char) :
    wordRuns (before ++ c :: behind) = wordRuns before ++ wordRuns behind := by
  rw [wordRuns, fields, pieces_append_cons (by simp [hc]), List.filter_append]
  rfl

/-- **Texts that lie apart keep their runs.** -/
theorem wordRuns_append {before behind : List Char} (h : Apart before behind) :
    wordRuns (before ++ behind) = wordRuns before ++ wordRuns behind := by
  have hnil : wordRuns [] = [] := rfl
  rcases not_and_or.1 h with hlast | hfirst
  · rcases List.eq_nil_or_concat before with rfl | ⟨start, c, rfl⟩
    · rw [hnil, List.nil_append, List.nil_append]
    · have hc : isWordChar c = false := by simpa using hlast
      rw [List.concat_eq_append, List.append_assoc, List.singleton_append,
        wordRuns_append_cons hc, wordRuns_append_cons hc, hnil, List.append_nil]
  · cases behind with
    | nil => rw [hnil, List.append_nil, List.append_nil]
    | cons c rest =>
      have hc : isWordChar c = false := by simpa using hfirst
      rw [wordRuns_append_cons hc, wordRuns_cons_of_not hc]

/-- No run leads from one of the texts into those behind it. -/
def AllApart : List (List Char) → Prop
  | [] => True
  | text :: others => Apart text others.flatten ∧ AllApart others

instance decidableAllApart : (texts : List (List Char)) → Decidable (AllApart texts)
  | [] => inferInstanceAs (Decidable True)
  | text :: others =>
    have := decidableAllApart others
    inferInstanceAs (Decidable (Apart text others.flatten ∧ AllApart others))

/-- Texts none of which runs into the next keep their runs. -/
theorem wordRuns_flatten {texts : List (List Char)} (h : AllApart texts) :
    wordRuns texts.flatten = texts.flatMap wordRuns := by
  induction texts with
  | nil => rfl
  | cons text others ih =>
    rw [List.flatten_cons, wordRuns_append h.1, ih h.2, List.flatMap_cons]

/-! ## Texts put together -/

/-- The pieces of some texts put together, each with the parts that the texts have in it. -/
def cutPieces : List (List Char) → List (List (List Char))
  | [] => [[]]
  | text :: others => abut ((wordPieces text).map ([·])) (cutPieces others)

theorem cutPieces_ne_nil (texts : List (List Char)) : cutPieces texts ≠ [] := by
  cases texts with
  | nil => exact List.cons_ne_nil _ _
  | cons text others =>
    refine abut_ne_nil ?_ (cutPieces_ne_nil others)
    simpa using wordPieces_ne_nil text

/-- The parts make up the pieces of the whole. -/
theorem map_flatten_cutPieces (texts : List (List Char)) :
    (cutPieces texts).map List.flatten = wordPieces texts.flatten := by
  induction texts with
  | nil => rfl
  | cons text others ih =>
    have hparts : ((wordPieces text).map ([·])).map List.flatten = wordPieces text := by
      simp [Function.comp_def]
    rw [cutPieces, map_flatten_abut, ih, hparts, List.flatten_cons]
    exact (pieces_append _ text others.flatten).symm

/-- The parts are the pieces of the texts. -/
theorem flatten_cutPieces (texts : List (List Char)) :
    (cutPieces texts).flatten = texts.flatMap wordPieces := by
  induction texts with
  | nil => rfl
  | cons text others ih =>
    rw [cutPieces, flatten_abut _ (cutPieces_ne_nil others), ih, List.flatMap_cons]
    rw [← List.flatMap_def, List.flatMap_singleton']

/-- The pieces of which more than one text has a part. -/
def spanningPieces (texts : List (List Char)) : List (List (List Char)) :=
  (cutPieces texts).filter fun parts => 2 ≤ parts.countP (!·.isEmpty)

section Count

variable {run : List Char}

/-- A piece with one part at most is that part. -/
theorem count_flatten_part (hrun : run ≠ []) {parts : List (List Char)}
    (h : parts.countP (!·.isEmpty) < 2) : [parts.flatten].count run = parts.count run := by
  have hflatten : parts.flatten = (parts.filter (!·.isEmpty)).flatten := by
    rw [List.flatten_filter_not_isEmpty]
  have hcount : parts.count run = (parts.filter (!·.isEmpty)).count run :=
    (List.count_filter (by simpa using hrun)).symm
  rw [List.countP_eq_length_filter] at h
  rw [hflatten, hcount]
  generalize parts.filter (!·.isEmpty) = nonempty at h ⊢
  match nonempty, h with
  | [], _ => simp [hrun.symm]
  | [part], _ => simp

theorem count_map_flatten (hrun : run ≠ []) (cut : List (List (List Char))) :
    let spanning := cut.filter fun parts => 2 ≤ parts.countP (!·.isEmpty)
    (cut.map List.flatten).count run + spanning.flatten.count run =
      cut.flatten.count run + (spanning.map List.flatten).count run := by
  induction cut with
  | nil => rfl
  | cons parts others ih =>
    have hfirst (rest : List (List Char)) :
        (parts.flatten :: rest).count run = [parts.flatten].count run + rest.count run := by
      rw [← List.count_append, List.singleton_append]
    simp only [List.map_cons, List.flatten_cons, List.count_append] at ih ⊢
    rw [hfirst (others.map List.flatten)]
    by_cases hparts : 2 ≤ parts.countP (!·.isEmpty)
    · rw [List.filter_cons_of_pos (by simpa using hparts), List.map_cons, List.flatten_cons,
        List.count_append, hfirst (List.map _ _)]
      omega
    · rw [List.filter_cons_of_neg (by simpa using hparts),
        count_flatten_part hrun (Nat.lt_of_not_le hparts)]
      omega

/-- **How the runs of the whole differ from those of its texts:** it has the runs that spanning
pieces make up, and lacks those that are parts of spanning pieces. -/
theorem count_wordRuns_flatten (hrun : run ≠ []) (texts : List (List Char)) :
    (wordRuns texts.flatten).count run + (spanningPieces texts).flatten.count run =
      (texts.flatMap wordRuns).count run +
        ((spanningPieces texts).map List.flatten).count run := by
  have hkept : (!run.isEmpty) = true := by simpa using hrun
  have hwhole : (wordRuns texts.flatten).count run =
      ((cutPieces texts).map List.flatten).count run := by
    rw [map_flatten_cutPieces]
    exact List.count_filter hkept
  have hparts : (texts.flatMap wordRuns).count run = (cutPieces texts).flatten.count run := by
    rw [flatten_cutPieces, List.count_flatMap, List.count_flatMap]
    refine congrArg List.sum (List.map_congr_left fun text _ => ?_)
    exact List.count_filter hkept
  rw [hwhole, hparts]
  exact count_map_flatten hrun (cutPieces texts)

end Count

end Affinity
