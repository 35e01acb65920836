import Mathlib.Data.List.Sort
import Affinity.Table

/-!
# Laws of tables

A table is a list of entries whose keys ascend; every operation keeps it so. Such a table is
determined by what it gives for each key, whatever the order in which its entries were put in.

* `get?_insert` — an insertion changes what is under its own key and nothing else.
* `ext_of_ascending` — tables with the same values under the same keys are equal.
* `ofList_of_ascending` — ascending entries are the entries of their table.
* `get?_foldl_insert_of_mem` — what is found of entries in any order.
* `get?_tally`, `total_tally`, `tally_perm` — a tally counts each key, all keys, in any order.
* `foldl_add_perm` — counts may be added in any order.
* `entries_ofList_perm`, `entries_foldl_add_perm` — entries with distinct keys are all in the table.
-/

namespace Affinity

namespace Table

variable {κ ν : Type} [Ord κ]

/-- The keys of the entries strictly ascend. -/
def Ascending (t : Table κ ν) : Prop := t.entries.Pairwise fun a b => compare a.1 b.1 = .lt

theorem ascending_empty : Ascending ({} : Table κ ν) := List.Pairwise.nil

@[simp] theorem get?_empty (key : κ) : get? ({} : Table κ ν) key = none := rfl

theorem mem_insertEntry {key : κ} {value : ν} {entries : List (κ × ν)} {entry : κ × ν}
    (h : entry ∈ insertEntry key value entries) : entry = (key, value) ∨ entry ∈ entries := by
  induction entries with
  | nil => simpa [insertEntry] using h
  | cons first rest ih =>
    obtain ⟨k, v⟩ := first
    cases hc : compare key k <;> simp only [insertEntry, hc, List.mem_cons] at h ⊢ <;> tauto

theorem insertEntry_ne_nil (key : κ) (value : ν) (entries : List (κ × ν)) :
    insertEntry key value entries ≠ [] := by
  cases entries with
  | nil => exact List.cons_ne_nil _ _
  | cons first rest =>
    obtain ⟨k, v⟩ := first
    cases hc : compare key k <;> simp [insertEntry, hc]

/-- A table of some entries is empty if there are none. -/
theorem entries_ofList_eq_nil_iff (entries : List (κ × ν)) :
    (ofList entries).entries = [] ↔ entries = [] := by
  constructor
  · intro h
    by_contra hne
    rw [← List.dropLast_concat_getLast hne, ofList, List.foldl_concat] at h
    exact insertEntry_ne_nil _ _ _ h
  · rintro rfl
    rfl

/-! ## What insertion does to look-ups -/

variable [Std.LawfulEqOrd κ]

theorem findEntry?_insertEntry_self (key : κ) (value : ν) (entries : List (κ × ν)) :
    findEntry? key (insertEntry key value entries) = some value := by
  induction entries with
  | nil => simp [insertEntry, findEntry?]
  | cons entry rest ih =>
    obtain ⟨k, v⟩ := entry
    cases h : compare key k <;> simp [insertEntry, findEntry?, h, ih]

@[simp] theorem get?_insert_self (t : Table κ ν) (key : κ) (value : ν) :
    (t.insert key value).get? key = some value :=
  findEntry?_insertEntry_self key value t.entries

variable [Std.TransOrd κ]

theorem findEntry?_insertEntry_of_ne {key other : κ} (hne : other ≠ key) (value : ν)
    (entries : List (κ × ν)) :
    findEntry? other (insertEntry key value entries) = findEntry? other entries := by
  have hoff : compare other key ≠ .eq := fun h => hne (Std.LawfulEqOrd.eq_of_compare h)
  induction entries with
  | nil => cases h : compare other key <;> simp_all [insertEntry, findEntry?]
  | cons entry rest ih =>
    obtain ⟨k, v⟩ := entry
    cases h : compare key k with
    | lt =>
      -- everything below the new key is also below the first old one
      cases ho : compare other key with
      | lt => simp [insertEntry, findEntry?, h, ho, Std.TransCmp.lt_trans ho h]
      | eq => exact absurd ho hoff
      | gt => simp [insertEntry, findEntry?, h, ho]
    | eq =>
      have hk : key = k := Std.LawfulEqOrd.eq_of_compare h
      subst hk
      cases ho : compare other key <;> simp_all [insertEntry, findEntry?]
    | gt => cases ho : compare other k <;> simp [insertEntry, findEntry?, h, ho, ih]

/-- An insertion changes nothing under the other keys. -/
theorem get?_insert_of_ne (t : Table κ ν) {key other : κ} (hne : other ≠ key) (value : ν) :
    (t.insert key value).get? other = t.get? other :=
  findEntry?_insertEntry_of_ne hne value t.entries

theorem get?_insert [DecidableEq κ] (t : Table κ ν) (key other : κ) (value : ν) :
    (t.insert key value).get? other = if other = key then some value else t.get? other := by
  split
  · rename_i h
    rw [h, get?_insert_self]
  · rename_i h
    exact get?_insert_of_ne t h value

/-! ## Ascending entries -/

theorem ascending_insert {t : Table κ ν} (h : t.Ascending) (key : κ) (value : ν) :
    (t.insert key value).Ascending := by
  obtain ⟨entries⟩ := t
  simp only [Ascending, insert] at h ⊢
  induction entries with
  | nil => simp [insertEntry]
  | cons first rest ih =>
    obtain ⟨k, v⟩ := first
    obtain ⟨hfirst, hrest⟩ := List.pairwise_cons.1 h
    cases hc : compare key k with
    | lt =>
      simp only [insertEntry, hc]
      refine List.pairwise_cons.2 ⟨?_, h⟩
      intro entry hentry
      rcases List.mem_cons.1 hentry with rfl | hentry
      · exact hc
      · exact Std.TransCmp.lt_trans hc (hfirst entry hentry)
    | eq =>
      have hk : key = k := Std.LawfulEqOrd.eq_of_compare hc
      subst hk
      simp only [insertEntry, hc]
      exact List.pairwise_cons.2 ⟨hfirst, hrest⟩
    | gt =>
      simp only [insertEntry, hc]
      refine List.pairwise_cons.2 ⟨?_, ih hrest⟩
      intro entry hentry
      rcases mem_insertEntry hentry with rfl | hentry
      · exact Std.OrientedCmp.lt_of_gt hc
      · exact hfirst entry hentry

/-- What an ascending table gives for a key is the value of the entry with that key. -/
theorem get?_eq_some_iff {t : Table κ ν} (h : t.Ascending) {key : κ} {value : ν} :
    t.get? key = some value ↔ (key, value) ∈ t.entries := by
  obtain ⟨entries⟩ := t
  simp only [Ascending, get?] at h ⊢
  induction entries with
  | nil => simp [ findEntry?]
  | cons first rest ih =>
    obtain ⟨k, v⟩ := first
    obtain ⟨hfirst, hrest⟩ := List.pairwise_cons.1 h
    have hbelow : ∀ w, (k, w) ∉ rest := fun w hw => by
      simpa using hfirst (k, w) hw
    cases hc : compare key k with
    | lt =>
      have hne : key ≠ k := fun he => by simp [he] at hc
      have hout : (key, value) ∉ rest := fun hm => by
        have := Std.TransCmp.lt_trans hc (hfirst _ hm)
        simp at this
      simp [ findEntry?, hc, hne, hout]
    | eq =>
      have hk : key = k := Std.LawfulEqOrd.eq_of_compare hc
      subst hk
      simp [ findEntry?, hbelow, eq_comm]
    | gt =>
      have hne : key ≠ k := fun he => by simp [he] at hc
      simp [ findEntry?, hc, hne, ih hrest]

omit [Std.TransOrd κ] in
theorem Ascending.nodup_keys {t : Table κ ν} (h : t.Ascending) : t.keys.Nodup := by
  refine List.pairwise_map.2 (List.Pairwise.imp ?_ h)
  intro a b hab he
  simp [he] at hab

omit [Std.TransOrd κ] in
theorem Ascending.nodup {t : Table κ ν} (h : t.Ascending) : t.entries.Nodup :=
  h.nodup_keys.of_map

/-- Tables with the same values under the same keys are equal. -/
theorem ext_of_ascending {s t : Table κ ν} (hs : s.Ascending) (ht : t.Ascending)
    (h : ∀ key, s.get? key = t.get? key) : s = t := by
  have hmem : ∀ entry, entry ∈ s.entries ↔ entry ∈ t.entries := by
    rintro ⟨key, value⟩
    rw [← get?_eq_some_iff hs, ← get?_eq_some_iff ht, h key]
  have heq : s.entries = t.entries := by
    refine List.Perm.eq_of_pairwise ?_ hs ht ((List.perm_ext_iff_of_nodup hs.nodup ht.nodup).2 hmem)
    intro a b _ _ hab hba
    exact absurd hba (Std.OrientedCmp.not_lt_of_lt hab)
  cases s
  cases t
  exact congrArg _ heq

/-! ## Tables of ascending entries -/

omit [Std.LawfulEqOrd κ] in
theorem insertEntry_of_lt {key : κ} {entries : List (κ × ν)}
    (h : ∀ entry ∈ entries, compare entry.1 key = .lt) (value : ν) :
    insertEntry key value entries = entries ++ [(key, value)] := by
  induction entries with
  | nil => rfl
  | cons first rest ih =>
    obtain ⟨k, v⟩ := first
    have hgt : compare key k = .gt := Std.OrientedCmp.gt_of_lt (h _ (List.mem_cons_self ..))
    simp [insertEntry, hgt, ih fun entry hentry => h entry (List.mem_cons_of_mem _ hentry)]

omit [Std.LawfulEqOrd κ] in
/-- Ascending entries are the entries of their table. -/
theorem ofList_of_ascending {entries : List (κ × ν)}
    (h : entries.Pairwise fun a b => compare a.1 b.1 = .lt) : ofList entries = ⟨entries⟩ := by
  suffices hgen : ∀ before : List (κ × ν),
      (before ++ entries).Pairwise (fun a b => compare a.1 b.1 = .lt) →
      entries.foldl (fun t entry => t.insert entry.1 entry.2) (⟨before⟩ : Table κ ν)
        = ⟨before ++ entries⟩ from hgen [] h
  clear h
  induction entries with
  | nil => intro before _; simp
  | cons first rest ih =>
    intro before hb
    have hlast : ∀ entry ∈ before, compare entry.1 first.1 = .lt := fun entry hentry =>
      (List.pairwise_append.1 hb).2.2 entry hentry first (List.mem_cons_self ..)
    rw [List.foldl_cons, insert, insertEntry_of_lt hlast, ih]
    · simp
    · simpa using hb

/-- The table of ascending entries gives for each key the value of its entry. -/
theorem get?_ofList_of_ascending {entries : List (κ × ν)}
    (h : entries.Pairwise fun a b => compare a.1 b.1 = .lt) {key : κ} {value : ν} :
    (ofList entries).get? key = some value ↔ (key, value) ∈ entries := by
  rw [ofList_of_ascending h]
  exact get?_eq_some_iff h

/-! ## Tables of entries in any order -/

theorem ascending_foldl_insert {t : Table κ ν} (h : t.Ascending) (entries : List (κ × ν)) :
    (entries.foldl (fun t entry => t.insert entry.1 entry.2) t).Ascending :=
  List.foldlRecOn _ _ h fun _ ht _ _ => ascending_insert ht _ _

theorem ascending_ofList (entries : List (κ × ν)) : (ofList entries).Ascending :=
  ascending_foldl_insert ascending_empty entries

theorem get?_foldl_insert_of_notMem {entries : List (κ × ν)} {key : κ}
    (h : ∀ value, (key, value) ∉ entries) (t : Table κ ν) :
    (entries.foldl (fun t entry => t.insert entry.1 entry.2) t).get? key = t.get? key := by
  induction entries generalizing t with
  | nil => rfl
  | cons first rest ih =>
    have hne : key ≠ first.1 := fun he => h first.2 (he ▸ List.mem_cons_self ..)
    rw [List.foldl_cons, ih (fun value hmem => h value (List.mem_cons_of_mem _ hmem)),
      get?_insert_of_ne t hne]

/-- An entry whose key has no other value among the entries is found, whatever was there before. -/
theorem get?_foldl_insert_of_mem {entries : List (κ × ν)} {key : κ} {value : ν}
    (hmem : (key, value) ∈ entries) (hunique : ∀ other, (key, other) ∈ entries → other = value)
    (t : Table κ ν) :
    (entries.foldl (fun t entry => t.insert entry.1 entry.2) t).get? key = some value := by
  induction entries generalizing t with
  | nil => cases hmem
  | cons first rest ih =>
    have hrest : ∀ other, (key, other) ∈ rest → other = value := fun other hother =>
      hunique other (List.mem_cons_of_mem _ hother)
    rw [List.foldl_cons]
    by_cases hlater : (key, value) ∈ rest
    · exact ih hlater hrest _
    · -- the entry is the first one, and its key does not come again
      have hnone : ∀ other, (key, other) ∉ rest := fun other hother =>
        hlater (hrest other hother ▸ hother)
      rw [get?_foldl_insert_of_notMem hnone]
      rcases List.mem_cons.1 hmem with rfl | hmem
      · exact get?_insert_self t key value
      · exact absurd hmem hlater

/-! ## Tables of counts -/

omit [Std.LawfulEqOrd κ] [Std.TransOrd κ] in
theorem sumOf_insertEntry (key : κ) (n : Nat) (entries : List (κ × Nat)) :
    sumOf ((insertEntry key n entries).map (·.2)) + ( findEntry? key entries).getD 0
      = sumOf (entries.map (·.2)) + n := by
  induction entries with
  | nil => simp [insertEntry, findEntry?]
  | cons first rest ih =>
    obtain ⟨k, m⟩ := first
    cases hc : compare key k <;> simp only [insertEntry, findEntry?, hc, List.map_cons, sumOf_cons,
      Option.getD_none, Option.getD_some] <;> omega

omit [Std.LawfulEqOrd κ] [Std.TransOrd κ] in
@[simp] theorem total_add (t : Table κ Nat) (key : κ) (n : Nat) :
    (t.add key n).total = t.total + n := by
  have h := sumOf_insertEntry key ((t.get? key).getD 0 + n) t.entries
  simp only [add, insert, total, values, get?] at h ⊢
  omega

omit [Std.LawfulEqOrd κ] [Std.TransOrd κ] in
/-- A tally counts every occurrence. -/
theorem total_tally (keys : List κ) : (tally keys).total = keys.length := by
  suffices hgen : ∀ t : Table κ Nat,
      (keys.foldl (fun t key => t.add key 1) t).total = t.total + keys.length by
    simpa [tally, total, values] using hgen {}
  induction keys with
  | nil => intro t; rfl
  | cons key rest ih =>
    intro t
    rw [List.foldl_cons, ih, total_add, List.length_cons]
    omega

theorem ascending_tally (keys : List κ) : (tally keys).Ascending := by
  suffices hgen : ∀ t : Table κ Nat, t.Ascending →
      (keys.foldl (fun t key => t.add key 1) t).Ascending from hgen {} ascending_empty
  induction keys with
  | nil => intro t ht; exact ht
  | cons key rest ih => intro t ht; exact ih _ (ascending_insert ht _ _)

/-- A tally gives how often a key occurs, and nothing for a key that does not. -/
theorem get?_tally [DecidableEq κ] (keys : List κ) (key : κ) :
    (tally keys).get? key = if key ∈ keys then some (keys.count key) else none := by
  suffices hgen : ∀ t : Table κ Nat, (keys.foldl (fun t key => t.add key 1) t).get? key =
      if key ∈ keys then some ((t.get? key).getD 0 + keys.count key) else t.get? key by
    simpa [tally] using hgen {}
  induction keys with
  | nil => intro t; simp
  | cons first rest ih =>
    intro t
    rw [List.foldl_cons, ih, add, get?_insert]
    by_cases hf : key = first
    · subst hf
      by_cases hr : key ∈ rest
      · simp [hr]
        omega
      · simp [hr, List.count_eq_zero_of_not_mem hr]
    · simp [hf, Ne.symm hf]

/-- A tally does not depend on the order of the keys. -/
theorem tally_perm {keys others : List κ} (h : keys.Perm others) : tally keys = tally others := by
  classical
  refine ext_of_ascending (ascending_tally _) (ascending_tally _) fun key => ?_
  rw [get?_tally, get?_tally, h.count_eq, if_congr h.mem_iff rfl rfl]

/-! ## Counts added one after the other -/

omit [Std.LawfulEqOrd κ] [Std.TransOrd κ] in
theorem total_foldl_add (entries : List (κ × Nat)) (t : Table κ Nat) :
    (entries.foldl (fun t entry => t.add entry.1 entry.2) t).total =
      t.total + sumOf (entries.map (·.2)) := by
  induction entries generalizing t with
  | nil => rfl
  | cons entry rest ih =>
    rw [List.foldl_cons, ih, total_add, List.map_cons, sumOf_cons, Nat.add_assoc]

theorem add_right_comm {t : Table κ Nat} (h : t.Ascending) (key other : κ) (n m : Nat) :
    (t.add key n).add other m = (t.add other m).add key n := by
  classical
  have hleft : ((t.add key n).add other m).Ascending :=
    ascending_insert (ascending_insert h _ _) _ _
  have hright : ((t.add other m).add key n).Ascending :=
    ascending_insert (ascending_insert h _ _) _ _
  refine ext_of_ascending hleft hright fun k => ?_
  simp only [add, get?_insert]
  by_cases heq : key = other
  · subst heq
    by_cases hk : k = key <;> simp [hk, Nat.add_right_comm]
  · by_cases hk : k = key <;> by_cases ho : k = other <;> simp_all

/-- It does not matter in which order counts are added. -/
theorem foldl_add_perm {entries others : List (κ × Nat)} (h : entries.Perm others)
    {t : Table κ Nat} (ht : t.Ascending) :
    entries.foldl (fun t entry => t.add entry.1 entry.2) t =
      others.foldl (fun t entry => t.add entry.1 entry.2) t := by
  induction h generalizing t with
  | nil => rfl
  | cons entry _ ih => exact ih (ascending_insert ht _ _)
  | swap first second rest =>
    rw [List.foldl_cons, List.foldl_cons, List.foldl_cons, List.foldl_cons,
      add_right_comm ht second.1 first.1]
  | trans _ _ ih ih' => exact (ih ht).trans (ih' ht)

/-! ## Entries with distinct keys -/

omit [Std.TransOrd κ] in
theorem insertEntry_perm {key : κ} {entries : List (κ × ν)} (h : key ∉ entries.map (·.1))
    (value : ν) : (insertEntry key value entries).Perm ((key, value) :: entries) := by
  induction entries with
  | nil => exact List.Perm.refl _
  | cons first rest ih =>
    obtain ⟨k, v⟩ := first
    rw [List.map_cons, List.mem_cons, not_or] at h
    cases hc : compare key k <;> simp only [insertEntry, hc]
    · exact List.Perm.refl _
    · exact absurd (Std.LawfulEqOrd.eq_of_compare hc) h.1
    · exact ((ih h.2).cons (k, v)).trans (List.Perm.swap ..)

omit [Std.TransOrd κ] in
theorem findEntry?_of_notMem {key : κ} {entries : List (κ × ν)} (h : key ∉ entries.map (·.1)) :
    findEntry? key entries = none := by
  induction entries with
  | nil => rfl
  | cons first rest ih =>
    obtain ⟨k, v⟩ := first
    rw [List.map_cons, List.mem_cons, not_or] at h
    cases hc : compare key k <;> simp only [ findEntry?, hc]
    · exact absurd (Std.LawfulEqOrd.eq_of_compare hc) h.1
    · exact ih h.2

omit [Std.TransOrd κ] in
/-- Under a key that does not occur, counting begins. -/
theorem add_of_notMem {t : Table κ Nat} {key : κ} (h : key ∉ t.entries.map (·.1)) (n : Nat) :
    t.add key n = t.insert key n := by
  rw [add, get?, findEntry?_of_notMem h, Option.getD_none, Nat.zero_add]

omit [Ord κ] [Std.LawfulEqOrd κ] [Std.TransOrd κ] in
/-- Entries that are put in one after the other stay beside each other, if that is so of each entry
whose key is new. -/
theorem entries_foldl_perm {put : Table κ ν → κ × ν → Table κ ν}
    (hput : ∀ (t : Table κ ν) entry, entry.1 ∉ t.entries.map (·.1) →
      (put t entry).entries.Perm (entry :: t.entries))
    {entries : List (κ × ν)} (h : (entries.map (·.1)).Nodup) :
    (entries.foldl put {}).entries.Perm entries := by
  suffices hgen : ∀ t : Table κ ν, ((entries ++ t.entries).map (·.1)).Nodup →
      (entries.foldl put t).entries.Perm (entries ++ t.entries) by
    simpa using hgen {} (by simpa using h)
  clear h
  induction entries with
  | nil => exact fun t _ => List.Perm.refl _
  | cons entry rest ih =>
    intro t hkeys
    rw [List.cons_append, List.map_cons, List.nodup_cons, List.map_append, List.mem_append,
      not_or] at hkeys
    obtain ⟨⟨hrest, ht⟩, hnodup⟩ := hkeys
    have hnext : (rest ++ (put t entry).entries).Perm (entry :: (rest ++ t.entries)) :=
      ((hput t entry ht).append_left rest).trans List.perm_middle
    refine (ih (put t entry) ?_).trans hnext
    rw [(hnext.map _).nodup_iff, List.map_cons, List.nodup_cons, List.map_append, List.mem_append,
      not_or]
    exact ⟨⟨hrest, ht⟩, hnodup⟩

omit [Std.TransOrd κ] in
/-- **Entries with distinct keys** are the entries of their table. -/
theorem entries_ofList_perm {entries : List (κ × ν)} (h : (entries.map (·.1)).Nodup) :
    (ofList entries).entries.Perm entries :=
  entries_foldl_perm (fun _ entry ht => insertEntry_perm ht entry.2) h

omit [Std.TransOrd κ] in
/-- Counts under distinct keys are not added to each other. -/
theorem entries_foldl_add_perm {entries : List (κ × Nat)} (h : (entries.map (·.1)).Nodup) :
    (entries.foldl (fun t entry => t.add entry.1 entry.2) ({} : Table κ Nat)).entries.Perm
      entries := by
  refine entries_foldl_perm (fun t entry ht => ?_) h
  rw [add_of_notMem ht]
  exact insertEntry_perm ht entry.2

end Table

end Affinity
