import Mathlib.Data.List.Infix
import Affinity.Profile.Batch
import Affinity.Proofs.Text.Places
import Affinity.Python.Statement

/-!
# Line breaks and facts

A line may end with a line feed or with a carriage return and a line feed. The facts by pattern
rules are found on lines without their breaks, so the breaks leave one trace in them: the style of
the file says which they are.

* `lines_withReturns` — a carriage return in front of every line feed changes no line.
* `contains_withReturns_iff` — there are such breaks if there are line feeds.
* `SourceFile.ruleFacts_congr` — what the facts of a file depend on.
* `SourceFile.facts_withReturns` — the facts about a file whose breaks are rewritten.
-/

namespace Affinity

/-- The text with a carriage return in front of every line feed. -/
def withReturns (text : List Char) : List Char := replaceChar '\n' ['\r', '\n'] text

/-- The file with a carriage return in front of every line feed. -/
def SourceFile.withReturns (file : SourceFile) : SourceFile :=
  { file with content := String.ofList (Affinity.withReturns file.text) }

@[simp] theorem SourceFile.text_withReturns (file : SourceFile) :
    file.withReturns.text = Affinity.withReturns file.text :=
  String.toList_ofList

/-! ## Lines -/

theorem withReturns_lineFeed (rest : List Char) :
    withReturns ('\n' :: rest) = '\r' :: '\n' :: withReturns rest := rfl

theorem withReturns_cons {c : Char} (hc : c ≠ '\n') (rest : List Char) :
    withReturns (c :: rest) = c :: withReturns rest := by
  rw [withReturns, replaceChar, List.flatMap_cons, if_neg hc]
  rfl

theorem withReturns_append (before behind : List Char) :
    withReturns (before ++ behind) = withReturns before ++ withReturns behind :=
  List.flatMap_append

theorem withReturns_of_notMem {text : List Char} (h : '\n' ∉ text) : withReturns text = text := by
  induction text with
  | nil => rfl
  | cons c rest ih =>
    rw [List.mem_cons, not_or] at h
    rw [withReturns_cons (Ne.symm h.1), ih h.2]

/-- **The lines stay the same** if a carriage return is put in front of every line feed. -/
theorem lines_withReturns {text : List Char} (hreturn : '\r' ∉ text) :
    lines (withReturns text) = lines text := by
  induction text with
  | nil => rfl
  | cons c rest ih =>
    rw [List.mem_cons, not_or] at hreturn
    have hrest : lines (withReturns rest) = lines rest := ih hreturn.2
    have hc : ¬ (c = '\r' ∧ rest.head? = some '\n') := fun h => hreturn.1 h.1.symm
    have hc' : ¬ (c = '\r' ∧ (withReturns rest).head? = some '\n') := fun h => hreturn.1 h.1.symm
    by_cases hfeed : c = '\n'
    · subst hfeed
      calc lines (withReturns ('\n' :: rest))
        _ = lines ('\r' :: '\n' :: withReturns rest) := rfl
        _ = lines ('\n' :: withReturns rest) := by
          rw [lines_cons, if_neg (by decide), if_pos ⟨rfl, rfl⟩]
        _ = [] :: lines (withReturns rest) := by rw [lines_cons, if_pos rfl]
        _ = [] :: lines rest := by rw [hrest]
        _ = lines ('\n' :: rest) := by rw [lines_cons, if_pos rfl]
    · rw [withReturns_cons hfeed, lines_cons, lines_cons, if_neg hfeed, if_neg hfeed, if_neg hc,
        if_neg hc', hrest]

/-! ## Traces of the breaks -/

theorem contains_iff_isInfix {text part : List Char} :
    contains text part = true ↔ part <:+: text := by
  induction text with
  | nil => rw [contains, List.isEmpty_iff, List.infix_nil]
  | cons c rest ih =>
    rw [contains, Bool.or_eq_true, List.isPrefixOf_iff_prefix, ih, List.infix_cons_iff]

/-- A text without carriage returns has no breaks of two characters. -/
theorem contains_returns_of_notMem {text : List Char} (hreturn : '\r' ∉ text) :
    contains text ['\r', '\n'] = false := by
  rw [← Bool.not_eq_true, contains_iff_isInfix]
  intro h
  exact hreturn (h.subset List.mem_cons_self)

/-- Rewriting the breaks leaves a trace exactly if there are breaks. -/
theorem contains_withReturns_iff {text : List Char} (hreturn : '\r' ∉ text) :
    contains (withReturns text) ['\r', '\n'] = text.contains '\n' := by
  by_cases hfeed : '\n' ∈ text
  · obtain ⟨before, behind, rfl⟩ := List.append_of_mem hfeed
    have hinfix : ['\r', '\n'] <:+: withReturns (before ++ '\n' :: behind) := by
      rw [withReturns_append, withReturns_lineFeed]
      exact ⟨withReturns before, withReturns behind, by simp⟩
    rw [contains_iff_isInfix.2 hinfix, List.contains_iff_mem.2 hfeed]
  · rw [withReturns_of_notMem hfeed, contains_returns_of_notMem hreturn]
    exact (Bool.eq_false_iff.2 (mt List.contains_iff_mem.1 hfeed)).symm

/-! ## Facts -/

/-- The facts with another kind of line breaks. -/
def FileFacts.withCrlf (facts : FileFacts) (crlf : Bool) : FileFacts :=
  { facts with style := { facts.style with crlf } }

/-- The facts by pattern rules depend on the lines of a file, on its path, and on the kind of its
line breaks. -/
theorem SourceFile.ruleFacts_congr (file other : SourceFile) (hpath : other.path = file.path)
    (hlanguage : other.language = file.language) (hlines : lines other.text = lines file.text) :
    other.ruleFacts = file.ruleFacts.withCrlf (contains other.text ['\r', '\n']) := by
  have hrows (rules : Rules) : rules.rowsOf other = rules.rowsOf file := by
    rw [Rules.rowsOf, Rules.rowsOf, classify, classify, hlines]
  have hextract (rules : Rules) (rows : List Row) : rules.extractRows other rows =
      (rules.extractRows file rows).withCrlf (contains other.text ['\r', '\n']) := by
    have hkey : other.key = file.key := congrArg Path.key hpath
    rw [Rules.extractRows, hkey, hlanguage]
    rfl
  dsimp only [ruleFacts]
  rw [hlanguage, hrows, hextract]
  cases file.language <;> rfl

/-- **Line breaks change one fact only.** If a carriage return is put in front of every line feed of
a file that has none, the facts by pattern rules stay what they are but for the kind of breaks,
which tells whether there are any. -/
theorem SourceFile.facts_withReturns [Python.Grammar] (file : SourceFile)
    (hrules : file.language ≠ .python) (hreturn : '\r' ∉ file.text) :
    file.facts.style.crlf = false ∧
      file.withReturns.facts = file.facts.withCrlf (file.text.contains '\n') := by
  have hfacts (f : SourceFile) (hf : f.language ≠ .python) : f.facts = f.ruleFacts := by
    unfold SourceFile.facts
    split
    · next hpython => exact absurd hpython hf
    · rfl
  have hcongr := SourceFile.ruleFacts_congr file file.withReturns rfl rfl
    (by rw [text_withReturns, lines_withReturns hreturn])
  have hself := SourceFile.ruleFacts_congr file file rfl rfl rfl
  rw [text_withReturns, contains_withReturns_iff hreturn] at hcongr
  rw [contains_returns_of_notMem hreturn] at hself
  rw [hfacts file hrules, hfacts file.withReturns hrules]
  refine ⟨?_, hcongr⟩
  rw [hself]
  rfl

/-- A class with two lines. -/
theorem SourceFile.facts_withReturns_class :
    let file : SourceFile :=
      { path := ⟨"A.java"⟩, language := .java, content := "class A \x7b // TODO\n\x7d\n" }
    file.language ≠ .python ∧ '\r' ∉ file.text ∧
      file.withReturns.content = "class A \x7b // TODO\r\n\x7d\r\n" ∧
      file.withReturns.facts = file.facts.withCrlf true := by
  intro file
  have hreturn : '\r' ∉ file.text := by decide
  have hbreak : file.text.contains '\n' = true := by decide
  have hfacts := (file.facts_withReturns (by decide) hreturn).2
  rw [hbreak] at hfacts
  exact ⟨by decide, hreturn, by decide, hfacts⟩

end Affinity
