import Mathlib.Data.List.Basic
import Affinity.Finding.ImportGraph
import Affinity.Proofs.Table.Laws

/-!
# What an import resolves to

A key names a text if it is the text or what follows one of its slashes. The index of the
repository answers as a search through the files would: with the first file whose path without its
extension is named by the key, else with the first file whose directory is. An import that names a
host in front is tried without its first parts, the longest rest first.

* `mem_moduleKeys_iff`, `mem_directoryKeys_iff` — the keys of a file are those that name its path
  and its directory.
* `SuffixIndex.lookup_ofPaths` — the index answers as the search does.
* `SuffixIndex.resolve_ofPaths` — an import resolves to the file that it means.
* `SuffixIndex.resolve_lt` — an import resolves to a file of the repository or to nothing.
-/

namespace Affinity

/-! ## What a key names -/

/-- The key is the text, or what follows one of its slashes. -/
def keyNames (key text : List Char) : Bool :=
  text == key || ('/' :: key).isSuffixOf text

theorem keyNames_iff {key text : List Char} :
    keyNames key text = true ↔ text = key ∨ '/' :: key <:+ text := by
  rw [keyNames, Bool.or_eq_true, beq_iff_eq, List.isSuffixOf_iff_suffix]

/-- The text before the last slash, if there is one. -/
def directoryOf? : List Char → Option (List Char)
  | [] => none
  | c :: rest =>
    match directoryOf? rest with
    | some directory => some (c :: directory)
    | none => if c = '/' then some [] else none

/-- The first file whose path without its extension is named by the key, else the first file whose
directory is. -/
def firstFile? (paths : List String) (key : List Char) : Option Nat :=
  (paths.findIdx? fun path => keyNames key (stripExtension path.toList)) <|>
    (paths.findIdx? fun path => (directoryOf? (stripExtension path.toList)).any (keyNames key))

/-- The first file found is one of those searched. -/
theorem lt_length_of_firstFile? {paths : List String} {key : List Char} {i : Nat}
    (h : firstFile? paths key = some i) : i < paths.length := by
  rcases (Option.orElse_eq_some _ _ _).1 h with h | ⟨-, h⟩ <;>
    exact (List.findIdx?_eq_some_iff_getElem.1 h).1

/-! ## Parts between slashes -/

/-- The parts of a text between its slashes. -/
abbrev slashParts (s : List Char) : List (List Char) := pieces (· = '/') s

theorem slashParts_slash (s : List Char) : slashParts ('/' :: s) = [] :: slashParts s := by
  simp [slashParts, pieces]

theorem slashParts_ne_nil (s : List Char) : slashParts s ≠ [] := by
  cases s with
  | nil => exact List.cons_ne_nil _ _
  | cons c s =>
    rw [slashParts, pieces, List.foldr_cons]
    split
    · exact List.cons_ne_nil _ _
    · split <;> exact List.cons_ne_nil _ _

theorem slashParts_cons {c : Char} (hc : c ≠ '/') {s first : List Char}
    {others : List (List Char)} (h : slashParts s = first :: others) :
    slashParts (c :: s) = (c :: first) :: others := by
  rw [slashParts, pieces] at h
  rw [slashParts, pieces, List.foldr_cons, if_neg (by simpa using hc), h]

theorem flatten_intersperse_slashParts (s : List Char) :
    ((slashParts s).intersperse ['/']).flatten = s := by
  induction s with
  | nil => rfl
  | cons c s ih =>
    obtain ⟨first, others, hs⟩ := List.exists_cons_of_ne_nil (slashParts_ne_nil s)
    rw [hs] at ih
    by_cases hc : c = '/'
    · rw [hc, slashParts_slash, hs, List.intersperse_cons_cons, List.flatten_cons,
        List.flatten_cons, ih]
      rfl
    · rw [slashParts_cons hc hs]
      cases others with
      | nil => simpa using ih
      | cons second others =>
        simp only [List.intersperse_cons_cons, List.flatten_cons, List.cons_append] at ih ⊢
        rw [ih]

theorem joinedTails_slashParts (s : List Char) :
    joinedTails (slashParts s) = s :: joinedTails (slashParts s).tail := by
  have hjoined := flatten_intersperse_slashParts s
  obtain ⟨first, others, hs⟩ := List.exists_cons_of_ne_nil (slashParts_ne_nil s)
  rw [hs] at hjoined ⊢
  rw [joinedTails, hjoined, List.tail_cons]

theorem mem_joinedTails_tail_iff {key s : List Char} :
    key ∈ joinedTails (slashParts s).tail ↔ '/' :: key <:+ s := by
  induction s with
  | nil => simp [slashParts, pieces, joinedTails]
  | cons c s ih =>
    rw [List.suffix_cons_iff, List.cons.injEq]
    by_cases hc : c = '/'
    · rw [hc, slashParts_slash, List.tail_cons, joinedTails_slashParts, List.mem_cons, ih]
      simp
    · obtain ⟨first, others, hs⟩ := List.exists_cons_of_ne_nil (slashParts_ne_nil s)
      rw [slashParts_cons hc hs, List.tail_cons, ← ih, hs, List.tail_cons]
      simp [Ne.symm hc]

/-- The tails of a text between slashes are what names it. -/
theorem mem_joinedTails_slashParts_iff {key s : List Char} :
    key ∈ joinedTails (slashParts s) ↔ keyNames key s = true := by
  rw [joinedTails_slashParts, List.mem_cons, mem_joinedTails_tail_iff, keyNames_iff, eq_comm]

/-- All parts but the last one are those of the directory. -/
theorem dropLast_slashParts (s : List Char) :
    (slashParts s).dropLast = (directoryOf? s).elim [] slashParts := by
  induction s with
  | nil => rfl
  | cons c s ih =>
    obtain ⟨first, others, hs⟩ := List.exists_cons_of_ne_nil (slashParts_ne_nil s)
    rw [directoryOf?]
    by_cases hc : c = '/'
    · rw [hc, slashParts_slash, List.dropLast_cons_of_ne_nil (slashParts_ne_nil s), ih]
      cases directoryOf? s with
      | none => rfl
      | some directory => exact (slashParts_slash directory).symm
    · rw [slashParts_cons hc hs, if_neg hc]
      rw [hs] at ih
      cases others with
      | nil =>
        cases hdirectory : directoryOf? s with
        | none => rfl
        | some directory =>
          rw [hdirectory] at ih
          exact absurd ih.symm (slashParts_ne_nil directory)
      | cons second others =>
        cases hdirectory : directoryOf? s with
        | none =>
          rw [hdirectory] at ih
          cases ih
        | some directory =>
          rw [hdirectory] at ih
          exact (slashParts_cons hc ih.symm).symm

/-! ## The keys of a file -/

/-- A file can be imported under the keys that name its path without the extension. -/
theorem mem_moduleKeys_iff {path : String} {key : List Char} :
    key ∈ moduleKeys path ↔ keyNames key (stripExtension path.toList) = true :=
  mem_joinedTails_slashParts_iff

/-- Its directory can be imported under the keys that name it. -/
theorem mem_directoryKeys_iff {path : String} {key : List Char} :
    key ∈ directoryKeys path ↔
      (directoryOf? (stripExtension path.toList)).any (keyNames key) = true := by
  rw [directoryKeys, dropLast_slashParts]
  cases directoryOf? (stripExtension path.toList) with
  | none => simp [joinedTails]
  | some directory => exact mem_joinedTails_slashParts_iff

namespace SuffixIndex

/-! ## The index -/

/-- Of several files under one key the first counts. -/
theorem get?_addFirst (table : Table (List Char) Nat) (file : Nat) (keys : List (List Char))
    (key : List Char) :
    (addFirst table file keys).get? key =
      ((table.get? key) <|> if key ∈ keys then some file else none) := by
  induction keys generalizing table with
  | nil => simp [addFirst]
  | cons first keys ih =>
    rw [addFirst, List.foldl_cons, ← addFirst, ih]
    cases hfirst : table.get? first with
    | some old =>
      rw [Option.isSome_some, if_pos rfl]
      by_cases hkey : key = first
      · rw [hkey, hfirst]
        rfl
      · simp only [List.mem_cons, hkey, false_or]
    | none =>
      rw [Option.isSome_none, if_neg Bool.false_ne_true, Table.get?_insert]
      by_cases hkey : key = first
      · rw [if_pos hkey, hkey, hfirst, if_pos List.mem_cons_self]
        rfl
      · rw [if_neg hkey]
        simp only [List.mem_cons, hkey, false_or]

/-- Files put into a table one after the other: under a key stands what stood there before, else the
first file with this key. -/
theorem get?_foldl_addFirst (keysOf : String → List (List Char)) (paths : List String) (n : Nat)
    (table : Table (List Char) Nat) (key : List Char) :
    ((paths.zipIdx n).foldl (fun table entry => addFirst table entry.2 (keysOf entry.1)) table).get?
        key =
      ((table.get? key) <|> (paths.findIdx? fun path => key ∈ keysOf path).map (· + n)) := by
  induction paths generalizing n table with
  | nil => simp
  | cons path paths ih =>
    rw [List.zipIdx_cons, List.foldl_cons, ih, get?_addFirst, List.findIdx?_cons]
    cases table.get? key with
    | some file => rfl
    | none =>
      by_cases hkey : key ∈ keysOf path
      · simp [hkey]
      · simp [hkey, Function.comp_def, Nat.add_assoc, Nat.add_comm 1 n]

theorem modules_ofPaths (paths : List String) :
    (ofPaths paths).modules =
      paths.zipIdx.foldl (fun table entry => addFirst table entry.2 (moduleKeys entry.1)) {} :=
  (List.foldl_hom modules fun _ _ => rfl).symm

theorem directories_ofPaths (paths : List String) :
    (ofPaths paths).directories =
      paths.zipIdx.foldl (fun table entry => addFirst table entry.2 (directoryKeys entry.1)) {} :=
  (List.foldl_hom directories fun _ _ => rfl).symm

/-- **The index answers as a search** through the files. -/
theorem lookup_ofPaths (paths : List String) (key : List Char) :
    (ofPaths paths).lookup key = firstFile? paths key := by
  rw [lookup, modules_ofPaths, directories_ofPaths, get?_foldl_addFirst, get?_foldl_addFirst]
  simp [firstFile?, mem_moduleKeys_iff, mem_directoryKeys_iff]

/-! ## Tails of a key -/

/-- The tails of a key are tried from the longest to the shortest. -/
theorem lookupTails_eq_some_iff {index : SuffixIndex} {key : List Char} {i : Nat} :
    index.lookupTails key = some i ↔
      ∃ tail, '/' :: tail <:+ key ∧ index.lookup tail = some i ∧
        ∀ longer, '/' :: longer <:+ key → tail.length < longer.length →
          index.lookup longer = none := by
  induction key with
  | nil => simp [lookupTails]
  | cons c rest ih =>
    rw [lookupTails]
    simp only [List.suffix_cons_iff, List.cons.injEq]
    by_cases hc : c = '/'
    · subst hc
      simp only [true_and, if_pos]
      cases hrest : index.lookup rest with
      | some file =>
        constructor
        · intro hfile
          refine ⟨rest, .inl rfl, hrest.trans hfile, ?_⟩
          rintro longer (rfl | hlonger) hlt
          · exact absurd hlt (Nat.lt_irrefl _)
          · exact absurd hlonger.length_le (by rw [List.length_cons]; omega)
        · rintro ⟨tail, rfl | htail, hfile, hlongest⟩
          · exact hrest.symm.trans hfile
          · have hnone := hlongest rest (.inl rfl) htail.length_le
            rw [hrest] at hnone
            cases hnone
      | none =>
        refine ih.trans (exists_congr fun tail => ?_)
        constructor
        · rintro ⟨htail, hfile, hlongest⟩
          refine ⟨.inr htail, hfile, ?_⟩
          rintro longer (rfl | hlonger) hlt
          · exact hrest
          · exact hlongest longer hlonger hlt
        · rintro ⟨rfl | htail, hfile, hlongest⟩
          · rw [hrest] at hfile
            cases hfile
          · exact ⟨htail, hfile, fun longer hlonger => hlongest longer (.inr hlonger)⟩
    · simp only [Ne.symm hc, false_and, false_or, if_neg hc]
      exact ih

/-! ## What an import resolves to -/

/-- The import means the file: its key finds the file, or, if the key finds nothing and a dot stands
in its first part, the longest of its tails that finds anything does. -/
def Means (paths : List String) (target : String) (file : Nat) : Prop :=
  ∃ key, importKey? target = some key ∧
    (firstFile? paths key = some file ∨
      firstFile? paths key = none ∧ '.' ∈ key.takeWhile (· != '/') ∧
        ∃ tail, '/' :: tail <:+ key ∧ firstFile? paths tail = some file ∧
          ∀ longer, '/' :: longer <:+ key → tail.length < longer.length →
            firstFile? paths longer = none)

theorem resolve_ofPaths {paths : List String} {target : String} {file : Nat} :
    (ofPaths paths).resolve target = some file ↔ Means paths target file := by
  simp only [Means, ← lookup_ofPaths]
  rw [resolve]
  cases importKey? target with
  | none => simp
  | some key =>
    simp only [Option.some.injEq, exists_eq_left']
    cases hkey : (ofPaths paths).lookup key with
    | some found => simp
    | none =>
      by_cases hhost : '.' ∈ key.takeWhile (· != '/')
      · simp [hhost, lookupTails_eq_some_iff]
      · simp [hhost]

/-- An import resolves to one of the files that the index was made of, or to nothing. -/
theorem resolve_lt {paths : List String} {target : String} {file : Nat}
    (h : (ofPaths paths).resolve target = some file) : file < paths.length := by
  obtain ⟨key, -, hkey | ⟨-, -, tail, -, htail, -⟩⟩ := resolve_ofPaths.1 h
  · exact lt_length_of_firstFile? hkey
  · exact lt_length_of_firstFile? htail

/-- **The index** answers for every key as the search through the files does, and an import resolves
to the file that it means, which is one of the repository, or to nothing. -/
theorem ofPaths_searches (paths : List String) :
    (∀ key, (ofPaths paths).lookup key = firstFile? paths key) ∧
      ∀ target file, ((ofPaths paths).resolve target = some file ↔ Means paths target file) ∧
        ((ofPaths paths).resolve target = some file → file < paths.length) :=
  ⟨lookup_ofPaths paths, fun _ _ => ⟨resolve_ofPaths, resolve_lt⟩⟩

end SuffixIndex

end Affinity
