/-!
# Counts and tables

* `sumOf`, `maxOf` — the sum and the greatest of some counts.
* `Table` — a finite map held as its list of entries in ascending order of the keys.
-/

namespace Affinity

/-! ## Counts -/

/-- The sum of some counts. -/
def sumOf (counts : List Nat) : Nat := counts.foldr (· + ·) 0

@[simp] theorem sumOf_nil : sumOf [] = 0 := rfl

@[simp] theorem sumOf_cons (n : Nat) (counts : List Nat) :
    sumOf (n :: counts) = n + sumOf counts := rfl

@[simp] theorem sumOf_append (before after : List Nat) :
    sumOf (before ++ after) = sumOf before + sumOf after := by
  induction before with
  | nil => simp
  | cons n rest ih => simp [ih, Nat.add_assoc]

/-- The greatest of some counts; zero if there are none. -/
def maxOf (counts : List Nat) : Nat := counts.foldr max 0

@[simp] theorem maxOf_nil : maxOf [] = 0 := rfl

@[simp] theorem maxOf_cons (n : Nat) (counts : List Nat) :
    maxOf (n :: counts) = max n (maxOf counts) := rfl

@[simp] theorem maxOf_append (before after : List Nat) :
    maxOf (before ++ after) = max (maxOf before) (maxOf after) := by
  induction before with
  | nil => simp
  | cons n rest ih => simp [ih, Nat.max_assoc]

theorem le_maxOf {n : Nat} {counts : List Nat} (h : n ∈ counts) : n ≤ maxOf counts := by
  induction counts with
  | nil => simp at h
  | cons m rest ih =>
    rw [maxOf_cons]
    rcases List.mem_cons.1 h with rfl | h
    · exact Nat.le_max_left ..
    · exact Nat.le_trans (ih h) (Nat.le_max_right ..)

theorem maxOf_mem {counts : List Nat} (h : counts ≠ []) : maxOf counts ∈ counts := by
  induction counts with
  | nil => contradiction
  | cons m rest ih =>
    rw [maxOf_cons]
    by_cases hrest : rest = []
    · simp [hrest]
    · rcases Nat.le_total m (maxOf rest) with hle | hle
      · simp [Nat.max_eq_right hle, ih hrest]
      · simp [Nat.max_eq_left hle]

/-!
## Tables

The operations keep the keys ascending, so that a table has one form for each content. `Table.add`
counts: a missing key counts as zero.
-/

/-- A finite map. The operations keep the keys of the entries strictly ascending. -/
structure Table (κ ν : Type) where
  entries : List (κ × ν) := []
  deriving DecidableEq, Repr, Inhabited

namespace Table

variable {κ ν : Type} [Ord κ]

/-- Puts an entry into an ascending list, in place of one with the same key. -/
def insertEntry (key : κ) (value : ν) : List (κ × ν) → List (κ × ν)
  | [] => [(key, value)]
  | (k, v) :: rest =>
    match compare key k with
    | .lt => (key, value) :: (k, v) :: rest
    | .eq => (key, value) :: rest
    | .gt => (k, v) :: insertEntry key value rest

/-- The value under a key of an ascending list. -/
def findEntry? (key : κ) : List (κ × ν) → Option ν
  | [] => none
  | (k, v) :: rest =>
    match compare key k with
    | .lt => none
    | .eq => some v
    | .gt => findEntry? key rest

/-- The value under a key. -/
def get? (t : Table κ ν) (key : κ) : Option ν :=
  findEntry? key t.entries

/-- Puts an entry into the table, in place of one with the same key. -/
def insert (t : Table κ ν) (key : κ) (value : ν) : Table κ ν :=
  ⟨insertEntry key value t.entries⟩

/-- The table of some entries; of several with one key the last counts. -/
def ofList (entries : List (κ × ν)) : Table κ ν :=
  entries.foldl (fun t entry => t.insert entry.1 entry.2) {}

/-- Inserts the entries of `new` into `old`. -/
def extend (old new : Table κ ν) : Table κ ν :=
  new.entries.foldl (fun t entry => t.insert entry.1 entry.2) old

/-- The keys in ascending order. -/
def keys (t : Table κ ν) : List κ := t.entries.map (·.1)

/-- The values in the order of their keys. -/
def values (t : Table κ ν) : List ν := t.entries.map (·.2)

/-- The number of entries. -/
def size (t : Table κ ν) : Nat := t.entries.length

/-- There is no entry. -/
def isEmpty (t : Table κ ν) : Bool := t.entries.isEmpty

/-- Adds to the count under a key. -/
def add (t : Table κ Nat) (key : κ) (n : Nat) : Table κ Nat :=
  t.insert key ((t.get? key).getD 0 + n)

/-- Adds every count of `new` to `old`. -/
def addAll (old new : Table κ Nat) : Table κ Nat :=
  new.entries.foldl (fun t entry => t.add entry.1 entry.2) old

/-- The sum of the counts. -/
def total (t : Table κ Nat) : Nat := sumOf t.values

/-- How often each key occurs in a list. -/
def tally (keys : List κ) : Table κ Nat :=
  keys.foldl (fun t key => t.add key 1) {}

end Table

end Affinity
