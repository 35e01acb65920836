import Affinity.Proofs.Blocks.Soundness
import Affinity.Proofs.Finding.Counting
import Affinity.Rules.Tables

/-!
# Methods and their classes

A function is counted as a method twice over: for the class in whose block it is declared, and, at
the end of the file, for the class that its receiver names. Nothing keeps the two apart, so a
function may be a method of two classes, or twice one of the same class.

* `Rules.functionsIn` — where each function is declared, and its receiver.
* `Rules.credited_scanRows` — the methods that the scan of the rows counts.
* `Membership`, `Rules.memberships` — the classes to which each function is counted.
* `Rules.methods_eq` — the methods of each class.
* `Rules.methods_le_functions_iff` — when there are no more methods than functions.
* `Rules.friend_counted_twice` — a function that is a method of two classes.
-/

namespace Affinity

/-! ## Places of declaration -/

/-- The class in whose block a declaration stands has an open block. -/
theorem mem_of_owner?_eq_some {stack : List Frame} {index : Nat} (h : owner? stack = some index) :
    .classLike index ∈ stack.map (·.kind) := by
  induction stack with
  | nil => cases h
  | cons frame outer ih =>
    rw [List.map_cons, List.mem_cons]
    unfold owner? at h
    split at h
    · cases h
    · next found hkind =>
      cases h
      exact .inl hkind.symm
    · exact .inr (ih h)

namespace Rules

open BlockScan

/-- The functions that some rows declare, in order: the class in whose block each of them stands,
and its receiver. -/
def functionsIn (rules : Rules) (rows : List Row) : List (Option Nat × Option (List Char)) :=
  rows.zipIdx.filterMap fun (row, line) =>
    match rules.declarationOn? row with
    | some (.function _ _ receiver) =>
      some (owner? (rules.stateAt (rows.take line) row).stack, receiver)
    | _ => none

theorem functionsIn_concat (rules : Rules) (rows : List Row) (row : Row) :
    rules.functionsIn (rows ++ [row]) = rules.functionsIn rows ++
      (match rules.declarationOn? row with
        | some (.function _ _ receiver) => [(owner? (rules.stateAt rows row).stack, receiver)]
        | _ => []) := by
  unfold functionsIn
  rw [List.zipIdx_append, List.filterMap_append, Nat.zero_add]
  congr 1
  · apply List.filterMap_congr
    rintro ⟨other, line⟩ hmem
    have hline : line < rows.length := by
      simpa using (List.mem_zipIdx hmem).2.1
    simp only [List.take_append_of_le_length hline.le]
  · simp only [List.zipIdx_singleton, List.filterMap_cons, List.filterMap_nil, List.take_left]
    cases rules.declarationOn? row with
    | none => rfl
    | some declaration => cases declaration <;> rfl

theorem owner?_stateAt_lt {rules : Rules} {before : List Row} {row : Row} {index : Nat}
    (h : owner? (rules.stateAt before row).stack = some index) :
    index < (rules.scanRows before).1.roster.classes.length := by
  obtain ⟨count, harrive⟩ := exists_arrive_eq rules (rules.scanRows before).1
    (rules.scanRows before).2 before.length row
  have hmoment : (rules.stateAt before row).Sound := by
    have hlisted := rules.listed_scanRows before
    rw [← roster_expire _ before.length,
      ← roster_iterate _ (rules.scanRows before).2 count, ← harrive] at hlisted
    have hrow := (rules.timely_scanRows before).ending (rules.scanRows_snd_le before) count
    rw [← harrive] at hrow
    exact hrow.toTimely.sound hlisted
  have hholds := hmoment.stack _ (mem_of_owner?_eq_some h)
  have hroster : (rules.stateAt before row).roster = (rules.scanRows before).1.roster :=
    roster_arrive ..
  rw [← hroster, roster, List.length_map]
  exact hholds

end Rules

/-! ## Credits -/

namespace BlockScan

theorem length_credit (classes : List (String × Nat)) (index : Option Nat) :
    (Roster.credit classes index).length = classes.length := by
  cases index <;> simp [Roster.credit]

theorem getElem?_credit (classes : List (String × Nat)) (index : Option Nat) (i : Nat) :
    (Roster.credit classes index)[i]? =
      classes[i]?.map fun c => (c.1, c.2 + if index = some i then 1 else 0) := by
  cases index with
  | none => simp [Roster.credit]
  | some index =>
    simp only [Roster.credit, Option.elim_some, List.getElem?_modify, Option.some.injEq]
    cases classes[i]? with
    | none => rfl
    | some c => by_cases hi : index = i <;> simp [hi]

/-- Each of several credits counts for its own class. -/
theorem getElem?_foldl_credit (indices : List (Option Nat)) (classes : List (String × Nat))
    (i : Nat) :
    (indices.foldl Roster.credit classes)[i]? =
      classes[i]?.map fun c => (c.1, c.2 + indices.count (some i)) := by
  induction indices generalizing classes with
  | nil => simp
  | cons index rest ih =>
    rw [List.foldl_cons, ih, getElem?_credit, Option.map_map, List.count_cons]
    congr 1
    funext c
    by_cases hi : index = some i
    · simp [hi]
      omega
    · simp [hi]

/-- What is declared and counted when the rows with some functions were scanned. -/
structure Roster.Credited (functions : List (Option Nat × Option (List Char))) (r : Roster) :
    Prop where
  count : r.functions = functions.length
  /-- A function stands in the block of a class that is recorded. -/
  owners : ∀ index, some index ∈ functions.map (·.1) → index < r.classes.length
  methods : ∀ i c, r.classes[i]? = some c → c.2 = (functions.map (·.1)).count (some i)
  receivers : r.declarations.filterMap (·.2.receiver?) = functions.filterMap (·.2)

theorem Roster.Credited.function {functions : List (Option Nat × Option (List Char))} {r : Roster}
    (h : r.Credited functions) {owner : Option Nat}
    (howner : ∀ index, owner = some index → index < r.classes.length) (line : Nat)
    (name : List Char) (params : Nat) (receiver : Option (List Char)) :
    (r.declare owner line (.function name params receiver)).Credited
      (functions ++ [(owner, receiver)]) where
  count := by simp [Roster.declare, h.count]
  owners index hindex := by
    rw [List.map_append, List.mem_append, List.map_singleton, List.mem_singleton] at hindex
    simp only [Roster.declare, length_credit]
    rcases hindex with hbefore | howns
    · exact h.owners index hbefore
    · exact howner index howns.symm
  methods i c hc := by
    simp only [Roster.declare, getElem?_credit] at hc
    obtain ⟨before, hbefore, rfl⟩ := Option.map_eq_some_iff.1 hc
    simp [h.methods i before hbefore, List.count_append, List.count_singleton]
  receivers := by
    simp only [Roster.declare, List.filterMap_append, h.receivers]
    rfl

theorem Roster.Credited.classLike {functions : List (Option Nat × Option (List Char))} {r : Roster}
    (h : r.Credited functions) (owner : Option Nat) (line : Nat) (name : List Char) :
    (r.declare owner line (.classLike name)).Credited functions where
  count := h.count
  owners index hindex := by
    simp only [Roster.declare, List.length_append]
    exact (h.owners index hindex).trans_le (Nat.le_add_right ..)
  methods i c hc := by
    simp only [Roster.declare, getElem?_concat] at hc
    split at hc
    · next hnew =>
      -- no function stands in the block of a class that is declared only now
      have hnone : some i ∉ functions.map (·.1) := fun hmem =>
        (h.owners i hmem).ne hnew
      cases hc
      exact (List.count_eq_zero.2 hnone).symm
    · exact h.methods i c hc
  receivers := by
    simp only [Roster.declare, List.filterMap_append, h.receivers]
    exact List.append_nil _

end BlockScan

namespace Rules

open BlockScan

/-- **The scan counts every function for the class in whose block it is declared.** -/
theorem credited_scanRows (rules : Rules) (rows : List Row) :
    (rules.scanRows rows).1.roster.Credited (rules.functionsIn rows) := by
  induction rows using List.reverseRecOn with
  | nil => exact ⟨rfl, nofun, nofun, rfl⟩
  | append_singleton rows row ih =>
    rw [functionsIn_concat, roster_scanRows_concat]
    cases rules.declarationOn? row with
    | none => rwa [List.append_nil]
    | some declaration =>
      cases declaration with
      | function name params receiver =>
        exact ih.function (fun index howner => owner?_stateAt_lt howner) ..
      | classLike name =>
        rw [List.append_nil]
        exact ih.classLike ..

end Rules

/-! ## Receivers -/

namespace BlockScan

/-- The first class of the name that a receiver has. -/
def namedClass? (classes : List ClassFacts) (receiver : List Char) : Option Nat :=
  classes.findIdx? (·.name == String.ofList receiver)

theorem namedClass?_congr {classes classes' : List ClassFacts}
    (h : classes.map (·.name) = classes'.map (·.name)) :
    namedClass? classes = namedClass? classes' := by
  funext receiver
  have hnames : ∀ l : List ClassFacts, namedClass? l receiver =
      (l.map (·.name)).findIdx? (· == String.ofList receiver) := by
    intro l
    rw [List.findIdx?_map]
    rfl
  rw [hnames, hnames, h]

theorem lt_of_namedClass?_eq_some {classes : List ClassFacts} {receiver : List Char} {index : Nat}
    (h : namedClass? classes receiver = some index) : index < classes.length :=
  (List.findIdx?_eq_some_iff_getElem.1 h).1

theorem entries_addReceiver (classes : List ClassFacts) (receiver : List Char) :
    (addReceiver classes receiver).map entryOf =
      Roster.credit (classes.map entryOf) (namedClass? classes receiver) := by
  unfold addReceiver
  split
  · next index hindex =>
    rw [namedClass?, hindex]
    apply map_modify_of_comm
    exact fun _ => rfl
  · next hnone =>
    rw [namedClass?, hnone]
    rfl

theorem names_addReceiver (classes : List ClassFacts) (receiver : List Char) :
    (addReceiver classes receiver).map (·.name) = classes.map (·.name) := by
  unfold addReceiver
  split
  · apply map_modify
    exact fun _ => rfl
  · rfl

theorem names_addReceivers (receivers : List (List Char)) (classes : List ClassFacts) :
    (receivers.foldl addReceiver classes).map (·.name) = classes.map (·.name) := by
  induction receivers generalizing classes with
  | nil => rfl
  | cons receiver rest ih => rw [List.foldl_cons, ih, names_addReceiver]

/-- Every receiver is a credit for the class that it names. -/
theorem entries_addReceivers (receivers : List (List Char)) (classes : List ClassFacts) :
    (receivers.foldl addReceiver classes).map entryOf =
      (receivers.map (namedClass? classes)).foldl Roster.credit (classes.map entryOf) := by
  induction receivers generalizing classes with
  | nil => rfl
  | cons receiver rest ih =>
    rw [List.foldl_cons, ih, entries_addReceiver, List.map_cons, List.foldl_cons,
      namedClass?_congr (names_addReceiver classes receiver)]

end BlockScan

/-! ## Memberships -/

/-- The classes to which a function is counted as a method. -/
structure Membership where
  /-- The class in whose block the function is declared. -/
  enclosing : Option Nat
  /-- The first class of the name that its receiver has. -/
  named : Option Nat
  deriving DecidableEq, Repr

namespace Membership

/-- The function is counted to two classes, or twice to the same one. -/
def isTwofold (m : Membership) : Bool := m.enclosing.isSome && m.named.isSome

/-- The function is counted to no class. -/
def isFree (m : Membership) : Bool := m.enclosing.isNone && m.named.isNone

/-- Each function is counted once, but those that are counted twice or not at all. -/
theorem countP_add_countP (members : List Membership) :
    members.countP (·.enclosing.isSome) + members.countP (·.named.isSome) +
      members.countP isFree = members.length + members.countP isTwofold := by
  induction members with
  | nil => rfl
  | cons m rest ih =>
    obtain ⟨enclosing, named⟩ := m
    cases enclosing <;> cases named <;> simp [isTwofold, isFree] <;> omega

end Membership

/-- Numbers counted one by one. -/
theorem sumOf_count {indices : List (Option Nat)} {size : Nat}
    (h : ∀ index, some index ∈ indices → index < size) :
    sumOf ((List.range size).map fun i => indices.count (some i)) =
      indices.countP Option.isSome := by
  induction indices with
  | nil => simp [sumOf_eq_sum]
  | cons index rest ih =>
    have hrest := ih fun i hi => h i (List.mem_cons_of_mem _ hi)
    cases index with
    | none => simpa using hrest
    | some j =>
      have hone : sumOf ((List.range size).map fun i => if j = i then 1 else 0) = 1 := by
        have hmem : j ∈ List.range size := List.mem_range.2 (h j (List.mem_cons_self ..))
        rw [sumOf_eq_sum, List.sum_map_eq_nsmul_single j _ fun i hi _ => if_neg hi.symm,
          List.count_eq_one_of_mem List.nodup_range hmem, if_pos rfl, one_nsmul]
      simp only [List.count_cons, beq_iff_eq, Option.some.injEq, sumOf_map_add, hrest, hone]
      simp

/-- Of some names, those that are there are counted. -/
theorem count_map_filterMap {α : Type} (f : α → Option Nat) (names : List (Option α)) (i : Nat) :
    ((names.filterMap id).map f).count (some i) = (names.map (·.bind f)).count (some i) := by
  induction names with
  | nil => rfl
  | cons name rest ih =>
    cases name with
    | none => simpa using ih
    | some name =>
      rw [List.filterMap_cons_some (rfl : id (some name) = some name), List.map_cons,
        List.map_cons, List.count_cons, List.count_cons, ih]
      rfl

namespace Rules

open BlockScan

/-- The classes to which the functions of a file are counted, function by function. -/
def memberships (rules : Rules) (rows : List Row) : List Membership :=
  (rules.functionsIn rows).map fun (owner, receiver) =>
    ⟨owner, receiver.bind (namedClass? (rules.scanBlocks rows).classes)⟩

theorem roster_finished (rules : Rules) (rows : List Row) :
    (rules.finished rows).2.roster = (rules.scanRows rows).1.roster :=
  roster_finish ..

theorem length_memberships (rules : Rules) (rows : List Row) :
    (rules.scanBlocks rows).functions.length = (rules.memberships rows).length := by
  have hcount := (rules.credited_scanRows rows).count
  rw [← roster_finished] at hcount
  rw [memberships, List.length_map, ← hcount]
  rfl

/-- **The methods of a class** are the functions declared in its block and those whose receiver
names it. -/
theorem methods_eq {rules : Rules} {rows : List Row} {i : Nat} {c : ClassFacts}
    (hc : (rules.scanBlocks rows).classes[i]? = some c) :
    c.methods = (rules.memberships rows).countP (·.enclosing == some i) +
      (rules.memberships rows).countP (·.named == some i) := by
  have hcredited := rules.credited_scanRows rows
  rw [← roster_finished] at hcredited
  have hnamed : namedClass? (rules.finished rows).2.classes =
      namedClass? (rules.scanBlocks rows).classes :=
    namedClass?_congr (names_addReceivers _ _).symm
  have hreceivers : (rules.finished rows).2.declarations.filterMap (·.2.receiver?) =
      (rules.functionsIn rows).filterMap (·.2) := hcredited.receivers
  have hentries : ((rules.scanBlocks rows).classes.map entryOf)[i]? = some (entryOf c) := by
    rw [List.getElem?_map, hc]
    rfl
  have hscan : (rules.scanBlocks rows).classes.map entryOf =
      (((rules.functionsIn rows).filterMap (·.2)).map
        (namedClass? (rules.scanBlocks rows).classes)).foldl Roster.credit
          (rules.finished rows).2.roster.classes := by
    rw [← hreceivers, ← hnamed]
    exact entries_addReceivers _ _
  rw [hscan, getElem?_foldl_credit] at hentries
  obtain ⟨before, hbefore, hmethods⟩ := Option.map_eq_some_iff.1 hentries
  have hsum := congrArg Prod.snd hmethods
  have hfilter : (rules.functionsIn rows).filterMap (·.2) =
      ((rules.functionsIn rows).map (·.2)).filterMap id := by
    rw [List.filterMap_map]
    rfl
  simp only [hcredited.methods i before hbefore, hfilter, count_map_filterMap] at hsum
  rw [memberships, List.countP_map, List.countP_map]
  rw [List.map_map, List.count_eq_countP, List.count_eq_countP, List.countP_map,
    List.countP_map] at hsum
  exact hsum.symm

/-- All methods together: one for each function with a class around it, and one for each whose
receiver names a class. -/
theorem sumOf_methods (rules : Rules) (rows : List Row) :
    sumOf ((rules.scanBlocks rows).classes.map (·.methods)) =
      (rules.memberships rows).countP (·.enclosing.isSome) +
        (rules.memberships rows).countP (·.named.isSome) := by
  have hsize : (rules.scanBlocks rows).classes.length =
      (rules.scanRows rows).1.roster.classes.length := by
    rw [← roster_finished, roster, List.length_map]
    exact length_addReceivers _ _
  have hlist : (rules.scanBlocks rows).classes.map (·.methods) =
      (List.range (rules.scanBlocks rows).classes.length).map fun i =>
        ((rules.memberships rows).map (·.enclosing)).count (some i) +
          ((rules.memberships rows).map (·.named)).count (some i) := by
    apply List.ext_getElem
    · rw [List.length_map, List.length_map, List.length_range]
    · intro i hi _
      rw [List.length_map] at hi
      rw [List.getElem_map, List.getElem_map, List.getElem_range,
        methods_eq (List.getElem?_eq_getElem hi), List.count_eq_countP, List.count_eq_countP,
        List.countP_map, List.countP_map]
      rfl
  have henclosing : ∀ index, some index ∈ (rules.memberships rows).map (·.enclosing) →
      index < (rules.scanBlocks rows).classes.length := by
    intro index hindex
    rw [hsize]
    apply (rules.credited_scanRows rows).owners
    simpa [memberships] using hindex
  have hnamed : ∀ index, some index ∈ (rules.memberships rows).map (·.named) →
      index < (rules.scanBlocks rows).classes.length := by
    intro index hindex
    obtain ⟨m, hm, hindex⟩ := List.mem_map.1 hindex
    obtain ⟨⟨owner, receiver⟩, -, rfl⟩ := List.mem_map.1 hm
    obtain ⟨name, -, hname⟩ := Option.bind_eq_some_iff.1 hindex
    exact lt_of_namedClass?_eq_some hname
  rw [hlist, sumOf_map_add, sumOf_count henclosing, sumOf_count hnamed, List.countP_map,
    List.countP_map]
  rfl

/-- **There are no more methods than functions exactly if no more functions are counted twice than
not at all.** Each class has the functions declared in its block and those whose receiver names
it. -/
theorem methods_le_functions_iff (rules : Rules) (rows : List Row) :
    (rules.scanBlocks rows).functions.length = (rules.memberships rows).length ∧
      (∀ i c, (rules.scanBlocks rows).classes[i]? = some c →
        c.methods = (rules.memberships rows).countP (·.enclosing == some i) +
          (rules.memberships rows).countP (·.named == some i)) ∧
      (sumOf ((rules.scanBlocks rows).classes.map (·.methods)) ≤
          (rules.scanBlocks rows).functions.length ↔
        (rules.memberships rows).countP Membership.isTwofold ≤
          (rules.memberships rows).countP Membership.isFree) := by
  refine ⟨rules.length_memberships rows, fun i c hc => methods_eq hc, ?_⟩
  have hall := Membership.countP_add_countP (rules.memberships rows)
  rw [sumOf_methods, length_memberships]
  omega

/-- A friend declared over two lines is a method of the class that befriends it as well as of its
own. -/
theorem friend_counted_twice :
    let rows := classify cpp.comments
      ("class B \x7b\n  void f(int);\n\x7d;\n" ++
        "class A \x7b\n  friend void B::f(\n    int);\n\x7d;\n").toList
    let found := cpp.scanBlocks rows
    (found.functions.length, found.classes.map entryOf) = (1, [("B", 1), ("A", 1)]) ∧
      ¬ sumOf (found.classes.map (·.methods)) ≤ found.functions.length := by
  intro rows found
  have hfound :
      (found.functions.length, found.classes.map entryOf) = (1, [("B", 1), ("A", 1)]) := by
    decide +kernel
  obtain ⟨hfunctions, hclasses⟩ := Prod.mk.inj hfound
  have hmethods : found.classes.map (·.methods) = (found.classes.map entryOf).map (·.2) := by
    rw [List.map_map]
    rfl
  refine ⟨hfound, ?_⟩
  rw [hmethods, hclasses, hfunctions]
  decide

end Rules

end Affinity
