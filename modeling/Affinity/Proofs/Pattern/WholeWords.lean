import Mathlib.Data.List.Infix
import Mathlib.Data.List.TakeWhile
import Affinity.Pattern
import Affinity.Proofs.Text.WordRuns

/-!
# Patterns of whole words

A pattern may list words and demand that they stand between word boundaries. What it finds in a text
are the maximal runs of word characters that are among these words.

* `Pattern.wholeWord` — the pattern of some words.
* `Pattern.matchAt_wholeWord` — where it matches.
* `Pattern.groups_wholeWord` — what it finds in a text.
-/

namespace Affinity

namespace Pattern

/-! ## Words as patterns -/

/-- One character. -/
def literalChar (c : Char) : Pattern := .chars { items := [charItem c] }

/-- The characters of a word, one after the other. -/
def literal : List Char → Pattern
  | [] => .empty
  | c :: rest => rest.foldl (fun before d => .seq before (literalChar d)) (literalChar c)

/-- One of some words. -/
def oneOf : List (List Char) → Pattern
  | [] => .never
  | [word] => literal word
  | word :: second :: others => .alt (literal word) (oneOf (second :: others))

/-- One of some words between word boundaries; the word is the group `1`. -/
def wholeWord (words : List (List Char)) : Pattern :=
  .seq (.seq (.anchor .wordBoundary) (.group "1" (oneOf words))) (.anchor .wordBoundary)

section Run

variable (text : List Char) (k : Continuation) (i : Nat) (caps : Captures)

/-- What remains to be matched once a text was read from a position on. -/
def afterText (word : List Char) : Continuation := fun j caps =>
  if word <+: text.drop j then k (j + word.length) caps else none

theorem contains_single (c d : Char) :
    ({ items := [charItem c] } : CharSet).contains d = decide (d = c) := by
  have hle : (c ≤ d ∧ d ≤ c) ↔ d = c :=
    ⟨fun h => Char.le_antisymm h.2 h.1, fun h => by rw [h]; exact ⟨Char.le_refl c, Char.le_refl c⟩⟩
  simp [CharSet.contains, charItem, CharSet.Item.contains, ← Bool.decide_and, hle]

theorem cons_isPrefix_drop (c : Char) (rest : List Char) :
    c :: rest <+: text.drop i ↔ [c] <+: text.drop i ∧ rest <+: text.drop (i + 1) := by
  by_cases hi : i < text.length
  · rw [List.drop_eq_getElem_cons hi, List.cons_prefix_cons, List.cons_prefix_cons]
    simp only [List.nil_prefix, and_true]
  · rw [List.drop_eq_nil_of_le (Nat.le_of_not_lt hi)]
    simp

theorem run_literalChar (c : Char) :
    run text.toArray (literalChar c) k i caps = afterText text k [c] i caps := by
  rw [literalChar, run, afterText]
  by_cases hi : i < text.length
  · have hstart : [c] <+: text.drop i ↔ text[i] = c := by
      rw [List.drop_eq_getElem_cons hi, List.cons_prefix_cons]
      simp [eq_comm]
    rw [dif_pos (by simpa using hi), List.getElem_toArray, contains_single]
    simp only [hstart, decide_eq_true_eq, List.length_singleton]
  · rw [dif_neg (by simpa using hi), List.drop_eq_nil_of_le (Nat.le_of_not_lt hi)]
    simp

/-- A longer text is read character by character. -/
theorem afterText_cons (c : Char) (rest : List Char) :
    afterText text (afterText text k rest) [c] i caps = afterText text k (c :: rest) i caps := by
  have hlength : i + 1 + rest.length = i + (c :: rest).length := by
    rw [List.length_cons]
    omega
  unfold afterText
  rw [List.length_singleton, hlength]
  simp only [cons_isPrefix_drop text i c rest, ← ite_and]

theorem run_foldl_literalChar (p : Pattern) (word : List Char) :
    run text.toArray (word.foldl (fun before d => .seq before (literalChar d)) p) k i caps =
      run text.toArray p (afterText text k word) i caps := by
  induction word generalizing p with
  | nil =>
    have hnil : afterText text k [] = k := by
      funext j caps'
      simp [afterText]
    rw [hnil]
    rfl
  | cons c rest ih =>
    rw [List.foldl_cons, ih, run]
    congr 1
    funext j caps'
    rw [run_literalChar, afterText_cons]

/-- **A word matches where it stands.** -/
theorem run_literal (word : List Char) :
    run text.toArray (literal word) k i caps = afterText text k word i caps := by
  cases word with
  | nil => simp [literal, run, afterText]
  | cons c rest => rw [literal, run_foldl_literalChar, run_literalChar, afterText_cons]

/-- The first of the words that leads to a match counts. -/
theorem run_oneOf (words : List (List Char)) :
    run text.toArray (oneOf words) k i caps =
      words.findSome? fun word => afterText text k word i caps := by
  induction words with
  | nil =>
    rw [oneOf, never, run]
    simp [CharSet.contains]
  | cons word others ih =>
    rw [List.findSome?_cons]
    cases others with
    | nil =>
      rw [oneOf, run_literal, List.findSome?_nil]
      split <;> assumption
    | cons second rest =>
      rw [oneOf, run, run_literal, ih]
      cases afterText text k word i caps <;> rfl

end Run

/-! ## Boundaries -/

/-- A word character stands right before the position. -/
def insideWord (text : List Char) (i : Nat) : Bool :=
  i != 0 && Anchor.wordAt text.toArray (i - 1)

section Boundary

variable {text word rest : List Char} {i : Nat}

/-- What stands behind the run at a position. -/
theorem drop_add_takeWhile (text : List Char) (i : Nat) :
    text.drop (i + ((text.drop i).takeWhile isWordChar).length) =
      (text.drop i).dropWhile isWordChar := by
  rw [← List.drop_drop]
  generalize text.drop i = rest
  calc rest.drop (rest.takeWhile isWordChar).length
      = (rest.takeWhile isWordChar ++ rest.dropWhile isWordChar).drop
          (rest.takeWhile isWordChar).length := by rw [List.takeWhile_append_dropWhile]
    _ = rest.dropWhile isWordChar := List.drop_left

variable {words : List (List Char)} {text : List Char} {i : Nat}

theorem wordAt_eq (text : List Char) (i : Nat) :
    Anchor.wordAt text.toArray i = (text.drop i).head?.any isWordChar := by
  rw [Anchor.wordAt, List.head?_drop]
  by_cases hi : i < text.length
  · rw [dif_pos (by simpa using hi), List.getElem?_eq_getElem hi]
    rfl
  · rw [dif_neg (by simpa using hi), List.getElem?_eq_none (Nat.le_of_not_lt hi)]
    rfl

theorem insideWord_succ {c : Char} (h : text.drop i = c :: rest) :
    insideWord text (i + 1) = isWordChar c := by
  rw [insideWord, Nat.add_sub_cancel, wordAt_eq, h]
  rfl

/-- Behind a word, the text is inside a word. -/
theorem insideWord_behind (hne : word ≠ []) (hword : ∀ c ∈ word, isWordChar c = true)
    (h : text.drop i = word ++ rest) : insideWord text (i + word.length) = true := by
  obtain ⟨start, last, rfl⟩ := (List.eq_nil_or_concat word).resolve_left hne
  have hlast : text.drop (i + start.length) = last :: rest := by
    rw [← List.drop_drop, h]
    simp
  rw [List.concat_eq_append, List.length_append, List.length_singleton, ← Nat.add_assoc,
    insideWord_succ hlast]
  exact hword last (by simp)

theorem wordBoundary_holds (text : List Char) (i : Nat) :
    Anchor.holds text.toArray i .wordBoundary =
      (insideWord text i != (text.drop i).head?.any isWordChar) := by
  rw [Anchor.holds, wordAt_eq text i]
  rfl

/-- A word stands between boundaries exactly if it is the run of word characters that begins
there. -/
theorem stands_iff (hne : word ≠ []) (hword : ∀ c ∈ word, isWordChar c = true) :
    (Anchor.holds text.toArray i .wordBoundary = true ∧ word <+: text.drop i ∧
        Anchor.holds text.toArray (i + word.length) .wordBoundary = true) ↔
      insideWord text i = false ∧ (text.drop i).takeWhile isWordChar = word := by
  constructor
  · rintro ⟨hbefore, ⟨rest, hrest⟩, hbehind⟩
    have hhead : (word ++ rest).head?.any isWordChar = true := by
      obtain ⟨c, others, rfl⟩ := List.exists_cons_of_ne_nil hne
      exact hword c List.mem_cons_self
    rw [wordBoundary_holds, ← hrest, hhead] at hbefore
    rw [wordBoundary_holds, insideWord_behind hne hword hrest.symm, ← List.drop_drop, ← hrest,
      List.drop_left] at hbehind
    refine ⟨by simpa using hbefore, ?_⟩
    have hrun : rest.takeWhile isWordChar = [] := by
      cases rest with
      | nil => rfl
      | cons c others => exact List.takeWhile_cons_of_neg (by simpa using hbehind)
    rw [← hrest, List.takeWhile_append_of_pos hword, hrun, List.append_nil]
  · rintro ⟨hinside, hrun⟩
    have hrest : text.drop i = word ++ (text.drop i).dropWhile isWordChar := by
      rw [← hrun, List.takeWhile_append_dropWhile]
    have hstart : (text.drop i).head?.any isWordChar = true := by
      rw [hrest]
      obtain ⟨c, others, rfl⟩ := List.exists_cons_of_ne_nil hne
      exact hword c List.mem_cons_self
    have hend : ((text.drop i).dropWhile isWordChar).head?.any isWordChar = false := by
      cases hdrop : (text.drop i).dropWhile isWordChar with
      | nil => rfl
      | cons c others =>
        have hhead := List.head_dropWhile_not isWordChar (l := text.drop i) (by simp [hdrop])
        simpa [hdrop] using hhead
    refine ⟨?_, ⟨_, hrest.symm⟩, ?_⟩
    · rw [wordBoundary_holds, hinside, hstart]
      rfl
    · have hbehind : text.drop (i + word.length) = (text.drop i).dropWhile isWordChar := by
        rw [← hrun, drop_add_takeWhile]
      rw [wordBoundary_holds, insideWord_behind hne hword hrest, hbehind, hend]
      rfl

end Boundary

/-! ## Matches -/

/-- Words that hold word characters and nothing else. -/
def AreWords (words : List (List Char)) : Prop :=
  ∀ word ∈ words, word ≠ [] ∧ ∀ c ∈ word, isWordChar c = true

theorem AreWords.nil_notMem {words : List (List Char)} (hwords : AreWords words) : [] ∉ words :=
  fun hnil => (hwords [] hnil).1 rfl

section Matches

variable {words : List (List Char)} {text : List Char} {i : Nat}

/-- The match of a run that begins at a position. -/
def matchOf (run : List Char) (i : Nat) : Match :=
  ⟨i, i + run.length, [("1", i, i + run.length)]⟩

/-- A search that accepts one word only finds it if it is there. -/
theorem findSome?_eq_ite {α : Type} {run : List Char} {f : List Char → α}
    {search : List Char → Option α}
    (h : ∀ word ∈ words, search word = if run = word then some (f word) else none) :
    words.findSome? search = if run ∈ words then some (f run) else none := by
  induction words with
  | nil => rfl
  | cons word rest ih =>
    rw [List.forall_mem_cons] at h
    rw [List.findSome?_cons, h.1, ih h.2]
    by_cases hrun : run = word
    · simp [hrun]
    · simp [hrun]

/-- **Where a pattern of whole words matches:** at the beginning of a run that is one of them. -/
theorem matchAt_wholeWord (hwords : AreWords words) (text : List Char) (i : Nat) :
    matchAt (wholeWord words) text.toArray i =
      if insideWord text i = false ∧ (text.drop i).takeWhile isWordChar ∈ words then
        some (matchOf ((text.drop i).takeWhile isWordChar) i)
      else none := by
  have hrun : matchAt (wholeWord words) text.toArray i =
      words.findSome? fun word =>
        if Anchor.holds text.toArray i .wordBoundary = true ∧ word <+: text.drop i ∧
            Anchor.holds text.toArray (i + word.length) .wordBoundary = true then
          some (matchOf word i)
        else none := by
    rw [matchAt, wholeWord, run, run, run, run, run_oneOf]
    by_cases hboundary : Anchor.holds text.toArray i .wordBoundary = true
    · simp only [hboundary, if_true, true_and, afterText, run, ite_and]
      rfl
    · rw [if_neg hboundary]
      exact (List.findSome?_eq_none_iff.2 fun _ _ => if_neg fun h => hboundary h.1).symm
  rw [hrun]
  by_cases hinside : insideWord text i = false
  · simp only [hinside, true_and]
    refine findSome?_eq_ite (f := (matchOf · i)) fun word hword => ?_
    obtain ⟨hne, hchars⟩ := hwords word hword
    simp only [stands_iff hne hchars, hinside, true_and]
  · rw [if_neg (fun h => hinside h.1)]
    refine List.findSome?_eq_none_iff.2 fun word hword => ?_
    obtain ⟨hne, hchars⟩ := hwords word hword
    rw [if_neg (fun h => hinside ((stands_iff hne hchars).1 h).1)]

end Matches

/-! ## Searches -/

section FindAll

variable {p : Pattern} {chars : Array Char} {fuel i : Nat}

/-- A position without a match is passed over. -/
theorem findAllFrom_of_none (hi : i ≤ chars.size) (h : p.matchAt chars i = none) :
    p.findAllFrom chars fuel i = p.findAllFrom chars fuel (i + 1) := by
  cases fuel with
  | zero => rfl
  | succ fuel =>
    rw [findAllFrom, findAllFrom, Nat.add_sub_add_right, Nat.succ_sub hi, findFrom, h]

/-- A match that consumes something comes first; the search goes on behind it. -/
theorem findAllFrom_of_some {m : Match} (hi : i ≤ chars.size) (h : p.matchAt chars i = some m)
    (hm : m.stop ≠ m.start) :
    p.findAllFrom chars (fuel + 1) i = m :: p.findAllFrom chars fuel m.stop := by
  rw [findAllFrom, Nat.succ_sub hi, findFrom, h]
  simp only [beq_eq_false_iff_ne.2 hm, Bool.false_eq_true, if_false]

theorem findAllFrom_of_size_lt (hi : chars.size < i) : p.findAllFrom chars fuel i = [] := by
  cases fuel with
  | zero => rfl
  | succ fuel => rw [findAllFrom, Nat.sub_eq_zero_of_le hi, findFrom]

end FindAll

section Searches

variable {words : List (List Char)} {text : List Char} {i : Nat}

/-- The group of a match of a run. -/
theorem group?_matchOf {run : List Char} (h : run <+: text.drop i) :
    (matchOf run i).group? text.toArray "1" = some run := by
  have htake : (text.drop i).take run.length = run := List.prefix_iff_eq_take.1 h |>.symm
  simp [matchOf, Match.group?, sliceText, List.extract, htake]

/-- The pieces of a text that begin at a position or later. -/
def laterPieces (text : List Char) (i : Nat) : List (List Char) :=
  if insideWord text i = true then (wordPieces (text.drop i)).tail else wordPieces (text.drop i)

/-- A position where none of the words begins is passed over. -/
theorem filter_laterPieces (hwords : AreWords words)
    (h : ¬(insideWord text i = false ∧ (text.drop i).takeWhile isWordChar ∈ words)) :
    (laterPieces text i).filter (· ∈ words) = (laterPieces text (i + 1)).filter (· ∈ words) := by
  have hnil := hwords.nil_notMem
  cases hdrop : text.drop i with
  | nil =>
    have hnext : text.drop (i + 1) = [] := by rw [← List.drop_drop, hdrop, List.drop_nil]
    have hempty : wordPieces [] = [[]] := rfl
    rw [laterPieces, laterPieces, hdrop, hnext, hempty]
    split <;> split <;> simp [hnil]
  | cons c rest =>
    have hnext : text.drop (i + 1) = rest := by
      rw [← List.drop_drop, hdrop, List.drop_one, List.tail_cons]
    rw [laterPieces, laterPieces, insideWord_succ hdrop, hnext]
    rw [hdrop] at h ⊢
    by_cases hc : isWordChar c = true
    · rw [if_pos hc]
      split
      case isTrue => rw [tail_wordPieces_cons hc]
      case isFalse hinside =>
        rw [wordPieces_eq, tail_wordPieces_cons hc, List.filter_cons_of_neg]
        simpa [hinside] using h
    · rw [if_neg hc, wordPieces_cons, if_neg hc]
      split
      case isTrue => rfl
      case isFalse => rw [List.filter_cons_of_neg (by simpa using hnil)]

/-- Behind a run that is found, the later pieces follow. -/
theorem laterPieces_of_run {run : List Char} (hinside : insideWord text i = false)
    (hrun : (text.drop i).takeWhile isWordChar = run) (hne : run ≠ []) :
    laterPieces text i = run :: laterPieces text (i + run.length) := by
  have hchars : ∀ c ∈ run, isWordChar c = true := by
    subst hrun
    exact fun c hc => List.mem_takeWhile_imp hc
  have hrest : text.drop i = run ++ text.drop (i + run.length) := by
    rw [← hrun, drop_add_takeWhile, List.takeWhile_append_dropWhile]
  rw [laterPieces, laterPieces, hinside, insideWord_behind hne hchars hrest,
    if_neg Bool.false_ne_true, if_pos rfl, wordPieces_eq, hrun, hrest,
    tail_wordPieces_append hchars]

/-- Searching from a position on finds the later pieces that are among the words. -/
theorem findAllFrom_wholeWord (hwords : AreWords words) (text : List Char) {n fuel i : Nat}
    (hn : text.length + 1 - i ≤ n) (hfuel : n ≤ fuel) :
    ((wholeWord words).findAllFrom text.toArray fuel i).filterMap (·.group? text.toArray "1") =
      (laterPieces text i).filter (· ∈ words) := by
  -- on the number of positions left; a match takes fuel, a position passed over does not
  induction n generalizing fuel i with
  | zero =>
    have hi : text.length < i := by omega
    have hnil : text.drop i = [] := List.drop_eq_nil_of_le hi.le
    have hpieces : wordPieces [] = [[]] := rfl
    rw [findAllFrom_of_size_lt (by simpa using hi), laterPieces, hnil, hpieces]
    split <;> simp [hwords.nil_notMem]
  | succ n ih =>
    by_cases hi : i ≤ text.length
    case neg => exact ih (by omega) (by omega)
    have hsize : i ≤ text.toArray.size := by simpa using hi
    by_cases hfound : insideWord text i = false ∧ (text.drop i).takeWhile isWordChar ∈ words
    case neg =>
      have hnone : matchAt (wholeWord words) text.toArray i = none := by
        rw [matchAt_wholeWord hwords, if_neg hfound]
      rw [findAllFrom_of_none hsize hnone, filter_laterPieces hwords hfound]
      exact ih (by omega) (by omega)
    case pos =>
      obtain ⟨hinside, hmem⟩ := hfound
      generalize hrun : (text.drop i).takeWhile isWordChar = run at hmem
      have hne := (hwords run hmem).1
      have hpos : 0 < run.length := List.length_pos_of_ne_nil hne
      have hsome : matchAt (wholeWord words) text.toArray i = some (matchOf run i) := by
        rw [matchAt_wholeWord hwords, hrun, if_pos ⟨hinside, hmem⟩]
      obtain ⟨fuel, rfl⟩ : ∃ f, fuel = f + 1 := ⟨fuel - 1, by omega⟩
      have hgroup : (matchOf run i).group? text.toArray "1" = some run :=
        group?_matchOf (hrun ▸ List.takeWhile_prefix isWordChar)
      rw [findAllFrom_of_some hsize hsome (by simp [matchOf, hne]), List.filterMap_cons, hgroup,
        laterPieces_of_run hinside hrun hne, List.filter_cons_of_pos (by simpa using hmem)]
      exact congrArg (run :: ·) (ih (by simp only [matchOf]; omega) (by omega))

/-- **What a pattern of whole words finds** in a text: its runs of word characters that are among
the words. -/
theorem groups_wholeWord (hwords : AreWords words) (text : List Char) :
    (wholeWord words).groups "1" text = (wordRuns text).filter (· ∈ words) := by
  have hstart : laterPieces text 0 = wordPieces text := rfl
  rw [groups, findAll, List.size_toArray,
    findAllFrom_wholeWord hwords text le_rfl (Nat.sub_le _ _), hstart, wordRuns, fields,
    List.filter_filter]
  refine List.filter_congr fun run _ => ?_
  by_cases hmem : run ∈ words
  · simp [hmem, (hwords run hmem).1]
  · simp [hmem]

end Searches

end Pattern

end Affinity
