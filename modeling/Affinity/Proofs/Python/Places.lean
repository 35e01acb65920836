import Mathlib.Data.List.Induction
import Affinity.Proofs.Python.Walk

/-!
# Places in a syntax tree

A place is a node together with the nodes around it. The innermost definition among them owns the
node, and the node's depth is counted from there. From the places of a tree alone, `functionsOf` and
`classesOf` say what is to be found about its definitions.

* `SyntaxTree.map_node_places` — the places are those of the nodes in preorder.
* `SyntaxTree.known_places` — the nodes around a place stand under their numbers.
* `entries_charge` — changing the entry of one definition changes one element of the list.
* `functionsOf_concat`, `classesOf_concat` — what a further place adds.
-/

namespace Affinity.Python

/-! ## Kinds of nodes -/

namespace SyntaxTree

/-- A node that defines a function. -/
def isFunction (tree : SyntaxTree) : Bool := tree.kind = .functionDefinition

/-- A node that defines a class. -/
def isClass (tree : SyntaxTree) : Bool := tree.kind = .classDefinition

/-- A node that owns what is inside it. -/
def isDefinition (tree : SyntaxTree) : Bool := tree.isFunction || tree.isClass

/-- A statement that repeats the statements inside it. -/
def isLoop (tree : SyntaxTree) : Bool :=
  tree.kind = .forStatement || tree.kind = .whileStatement

/-- A statement that controls the statements inside it. -/
def isControl (tree : SyntaxTree) : Bool :=
  tree.isLoop ||
    [.ifStatement, .tryStatement, .withStatement, .matchStatement].contains tree.kind

/-- A node that adds a branch: `if`, a loop, or a clause or an operator with a condition. -/
def isBranch (tree : SyntaxTree) : Bool :=
  tree.isLoop ||
    [.ifStatement, .elifClause, .exceptClause, .caseClause, .conditionalExpression,
      .booleanOperator, .forInClause, .ifClause].contains tree.kind

/-- A statement that leaves the function. -/
def isExit (tree : SyntaxTree) : Bool :=
  tree.kind = .returnStatement || tree.kind = .raiseStatement

/-- A call that reads or writes. -/
def isIoCall (tree : SyntaxTree) : Bool :=
  tree.kind = .call && ioCall.isMatch (tree.textOf .function)

/-- A string is added to a variable. -/
def isTextAppend (tree : SyntaxTree) : Bool :=
  tree.kind = .augmentedAssignment && tree.addsString

end SyntaxTree

open SyntaxTree (isFunction isClass isDefinition isControl isLoop isBranch isExit isIoCall
  isTextAppend)

/-! ## Places -/

/-- The nodes around a node, innermost first, each with its number in preorder. -/
abbrev Surroundings := List (Nat × SyntaxTree)

namespace Surroundings

/-- The number of the innermost definition. -/
def definition? (above : Surroundings) : Option Nat :=
  (above.find? fun around => around.2.isDefinition).map (·.1)

/-- The number of nodes of a kind inside the innermost definition. -/
def depth (kind : SyntaxTree → Bool) (above : Surroundings) : Nat :=
  (above.takeWhile fun around => !around.2.isDefinition).countP fun around => kind around.2

end Surroundings

/-- A node and the nodes around it. -/
structure Place where
  node : SyntaxTree
  above : Surroundings

namespace Place

/-- The node is of a kind. -/
def is (p : Place) (kind : SyntaxTree → Bool) : Bool := kind p.node

/-- The number of the innermost definition around the node. -/
def definition? (p : Place) : Option Nat := p.above.definition?

/-- The number of nodes of a kind on the path from the innermost definition to the node, with the
node itself. -/
def depth (kind : SyntaxTree → Bool) (p : Place) : Nat :=
  p.above.depth kind + if p.is kind then 1 else 0

@[simp] theorem is_mk (node : SyntaxTree) (above : Surroundings) (kind : SyntaxTree → Bool) :
    (Place.mk node above).is kind = kind node := rfl

@[simp] theorem depth_mk (node : SyntaxTree) (above : Surroundings) (kind : SyntaxTree → Bool) :
    (Place.mk node above).depth kind = above.depth kind + if kind node then 1 else 0 := rfl

end Place

namespace SyntaxTree

mutual

/-- The places of the nodes of a tree in preorder. The root has the number `n`. -/
def placesFrom (n : Nat) (above : Surroundings) : SyntaxTree → List Place
  | mk label children =>
    ⟨mk label children, above⟩ :: placesFromAll (n + 1) ((n, mk label children) :: above) children

/-- The places of the nodes of several trees, one tree after the other. -/
def placesFromAll (n : Nat) (above : Surroundings) : List SyntaxTree → List Place
  | [] => []
  | tree :: rest =>
    let first := tree.placesFrom n above
    first ++ placesFromAll (n + first.length) above rest

end

/-- The places of a whole program. -/
def places (tree : SyntaxTree) : List Place := tree.placesFrom 0 []

mutual

theorem map_node_placesFrom (n : Nat) (above : Surroundings) : ∀ tree : SyntaxTree,
    (tree.placesFrom n above).map (·.node) = tree.preorder
  | mk _ children => by rw [placesFrom, preorder, List.map_cons, map_node_placesFromAll]

theorem map_node_placesFromAll (n : Nat) (above : Surroundings) : ∀ trees : List SyntaxTree,
    (placesFromAll n above trees).map (·.node) = preorderAll trees
  | [] => rfl
  | tree :: rest => by
    rw [placesFromAll, preorderAll, List.map_append, map_node_placesFrom, map_node_placesFromAll]

end

theorem map_node_places (tree : SyntaxTree) : tree.places.map (·.node) = tree.preorder :=
  map_node_placesFrom 0 [] tree

end SyntaxTree

/-! ## Surroundings -/

/-- The nodes around a node stand under their numbers among the places. -/
def Surroundings.Known (above : Surroundings) (places : List Place) : Prop :=
  ∀ n node, (n, node) ∈ above → places[n]?.map (·.node) = some node

namespace Surroundings.Known

variable {above : Surroundings} {places : List Place}

/-- Nothing is around the root. -/
theorem nil (places : List Place) : Surroundings.Known [] places :=
  fun _ _ hmem => absurd hmem List.not_mem_nil

theorem append (h : above.Known places) (rest : List Place) : above.Known (places ++ rest) := by
  intro n node hmem
  obtain ⟨p, hp, hnode⟩ := Option.map_eq_some_iff.mp (h n node hmem)
  rw [List.getElem?_append_left (List.getElem?_eq_some_iff.mp hp).1, hp, ← hnode]
  rfl

/-- Inside the node of the last place. -/
theorem cons (h : above.Known places) (node : SyntaxTree) :
    Surroundings.Known ((places.length, node) :: above) (places ++ [⟨node, above⟩]) := by
  intro n around hmem
  rcases List.mem_cons.mp hmem with heq | hmem
  · cases heq
    rw [List.getElem?_concat_length]
    rfl
  · exact h.append _ n around hmem

end Surroundings.Known

namespace SyntaxTree

mutual

theorem known_placesFrom {above : Surroundings} {before : List Place} (h : above.Known before) :
    ∀ tree : SyntaxTree, ∀ p ∈ tree.placesFrom before.length above,
      p.above.Known (before ++ tree.placesFrom before.length above)
  | mk label children => by
    intro p hp
    rw [placesFrom] at hp ⊢
    rcases List.mem_cons.mp hp with rfl | hp
    · exact h.append _
    · have hinside := known_placesFromAll (h.cons (mk label children)) children
      rw [List.length_append, List.append_assoc] at hinside
      exact hinside p hp

theorem known_placesFromAll {above : Surroundings} {before : List Place} (h : above.Known before) :
    ∀ trees : List SyntaxTree, ∀ p ∈ placesFromAll before.length above trees,
      p.above.Known (before ++ placesFromAll before.length above trees)
  | [] => nofun
  | tree :: rest => by
    intro p hp
    have hrest := known_placesFromAll (h.append (tree.placesFrom before.length above)) rest
    rw [List.length_append, List.append_assoc] at hrest
    rw [placesFromAll] at hp ⊢
    rcases List.mem_append.mp hp with hp | hp
    · rw [← List.append_assoc]
      exact (known_placesFrom h tree p hp).append _
    · exact hrest p hp

end

theorem known_places (tree : SyntaxTree) : ∀ p ∈ tree.places, p.above.Known tree.places :=
  known_placesFrom (.nil []) tree

end SyntaxTree

/-! ## What is to be found about definitions -/

/-- The facts about a function, from the nodes whose innermost definition it is. -/
def functionFacts? (inside : List Place) (node : SyntaxTree) : Option FunctionFacts :=
  if node.isFunction then some {
    name := node.name
    line := node.span.line
    lines := node.span.lines
    params := node.paramCount
    branches := inside.countP (·.is isBranch)
    maxNesting := maxOf ((inside.filter (·.is isControl)).map (·.depth isControl))
    earlyReturns := inside.countP fun p => p.is isExit && 0 < p.depth isControl
    maxLoopDepth := maxOf ((inside.filter (·.is isControl)).map (·.depth isLoop))
    ioInLoop := inside.countP fun p => p.is isIoCall && 0 < p.depth isLoop
    concatInLoop := inside.countP fun p => p.is isTextAppend && 0 < p.depth isLoop }
  else none

/-- The facts about a class, from the nodes whose innermost definition it is: its methods are the
functions among them. -/
def classFacts? (inside : List Place) (node : SyntaxTree) : Option ClassFacts :=
  if node.isClass then some {
    name := node.name
    line := node.span.line
    lines := node.span.lines
    methods := inside.countP (·.is isFunction) }
  else none

/-- The places whose innermost definition has the number `m`. -/
def inside (places : List Place) (m : Nat) : List Place :=
  places.filter fun p => p.definition? = some m

/-- What is found at each place, in order; `find?` is given the number of the place. -/
def entries {α : Type} (find? : Nat → SyntaxTree → Option α) (places : List Place) : List α :=
  places.zipIdx.filterMap fun entry => find? entry.2 entry.1.node

/-- **The functions of a program**: one for each definition of a function, in preorder. -/
def functionsOf (places : List Place) : List FunctionFacts :=
  entries (fun m => functionFacts? (inside places m)) places

/-- **The classes of a program**: one for each definition of a class, in preorder. -/
def classesOf (places : List Place) : List ClassFacts :=
  entries (fun m => classFacts? (inside places m)) places

/-! ## Positions among the entries -/

/-- The position that a definition has among the entries of its kind. -/
def index? (kind : SyntaxTree → Bool) (places : List Place) (m : Nat) : Option Nat :=
  if places[m]?.any (·.is kind) then some ((places.take m).countP (·.is kind)) else none

section

variable {kind : SyntaxTree → Bool} {places : List Place} {m : Nat}

theorem index?_append (h : m < places.length) (rest : List Place) :
    index? kind (places ++ rest) m = index? kind places m := by
  rw [index?, index?, List.getElem?_append_left h, List.take_append_of_le_length (Nat.le_of_lt h)]

theorem index?_length (places : List Place) (p : Place) :
    index? kind (places ++ [p]) places.length =
      if p.is kind then some (places.countP (·.is kind)) else none := by
  rw [index?, List.getElem?_concat_length, List.take_left, Option.any_some]

theorem index?_of_le (h : places.length ≤ m) : index? kind places m = none := by
  rw [index?, List.getElem?_eq_none h]
  rfl

theorem index?_lt {i : Nat} (h : index? kind places m = some i) :
    i < places.countP (·.is kind) := by
  rw [index?] at h
  cases hp : places[m]? with
  | none =>
    rw [hp] at h
    exact nomatch h
  | some p =>
    obtain ⟨hlt, rfl⟩ := List.getElem?_eq_some_iff.mp hp
    rw [hp, Option.any_some] at h
    split at h
    case isTrue hkind =>
      cases h
      have hsplit := congrArg (List.countP (·.is kind)) (List.take_append_drop m places)
      rw [List.drop_eq_getElem_cons hlt, List.countP_append, List.countP_cons, if_pos hkind]
        at hsplit
      omega
    case isFalse => exact nomatch h

end

/-! ## Changing an entry -/

/-- Changes the element at a position, if there is one. -/
def modifyAt {α : Type} (l : List α) (index : Option Nat) (change : α → α) : List α :=
  index.elim l fun i => l.modify i change

section

variable {α : Type} (change : α → α)

theorem modifyAt_id (l : List α) (index : Option Nat) : modifyAt l index id = l := by
  cases index with
  | none => rfl
  | some i => exact List.modify_id i l

theorem modify_append_left {i : Nat} {l : List α} (h : i < l.length) (r : List α) :
    (l ++ r).modify i change = l.modify i change ++ r := by
  induction l generalizing i with
  | nil => exact absurd h (Nat.not_lt_zero i)
  | cons a rest ih =>
    cases i with
    | zero => rfl
    | succ i =>
      rw [List.cons_append, List.modify_succ_cons, List.modify_succ_cons,
        ih (Nat.lt_of_succ_lt_succ h), List.cons_append]

theorem modify_append_length (l : List α) (a : α) :
    (l ++ [a]).modify l.length change = l ++ [change a] := by
  induction l with
  | nil => rfl
  | cons b rest ih =>
    rw [List.cons_append, List.length_cons, List.modify_succ_cons, ih, List.cons_append]

theorem modifyAt_append {l : List α} {index : Option Nat} (h : ∀ i, index = some i → i < l.length)
    (r : List α) : modifyAt (l ++ r) index change = modifyAt l index change ++ r := by
  cases index with
  | none => rfl
  | some i => exact modify_append_left change (h i rfl) r

end

/-! ## Lists of entries -/

section

variable {α : Type} {kind : SyntaxTree → Bool} {find? : Nat → SyntaxTree → Option α}

theorem entries_concat (find? : Nat → SyntaxTree → Option α) (places : List Place) (p : Place) :
    entries find? (places ++ [p]) =
      entries find? places ++ (find? places.length p.node).toList := by
  rw [entries, List.zipIdx_append, List.filterMap_append, ← entries, Nat.zero_add,
    List.zipIdx_singleton, List.filterMap_cons, List.filterMap_nil]
  cases find? places.length p.node with
  | none => rfl
  | some a => rfl

theorem length_entries (h : ∀ m node, (find? m node).isSome = kind node) (places : List Place) :
    (entries find? places).length = places.countP (·.is kind) := by
  induction places using List.reverseRecOn with
  | nil => rfl
  | append_singleton places p ih =>
    have hsome : (find? places.length p.node).isSome = p.is kind := h places.length p.node
    rw [entries_concat, List.length_append, ih, List.countP_append, List.countP_singleton, ← hsome]
    cases find? places.length p.node with
    | none => rfl
    | some a => rfl

/-- Changing what is found of the definition with the number `m` changes its entry, if there is
one, and leaves the others. -/
theorem entries_charge {find?' : Nat → SyntaxTree → Option α} {change : α → α} {m : Nat}
    (hsome : ∀ n node, (find? n node).isSome = kind node)
    (hother : ∀ n, n ≠ m → find?' n = find? n)
    (hself : ∀ node, find?' m node = (find? m node).map change) (places : List Place) :
    entries find?' places = modifyAt (entries find? places) (index? kind places m) change := by
  induction places using List.reverseRecOn with
  | nil => rfl
  | append_singleton places p ih =>
    have hkind : (find? places.length p.node).isSome = p.is kind := hsome places.length p.node
    rw [entries_concat, entries_concat, ih]
    -- the definition is found already, is the last place itself, or is still to come
    rcases Nat.lt_trichotomy m places.length with hlt | rfl | hgt
    · have hindex : ∀ i, index? kind places m = some i → i < (entries find? places).length := by
        intro i hi
        rw [length_entries hsome]
        exact index?_lt hi
      rw [index?_append hlt, modifyAt_append change hindex, hother _ (Nat.ne_of_gt hlt)]
    · rw [index?_of_le (Nat.le_refl _), index?_length, hself, ← hkind, ← length_entries hsome]
      cases find? places.length p.node with
      | none => exact (List.append_nil _).trans (List.append_nil _).symm
      | some a => exact (modify_append_length change _ a).symm
    · rw [index?_of_le (Nat.le_of_lt hgt), index?_of_le, hother _ (Nat.ne_of_lt hgt)]
      · rfl
      · rw [List.length_append]
        exact hgt

end

/-! ## What a further place adds -/

/-- The definition that owns a node comes before it. -/
def Numbered (places : List Place) : Prop :=
  ∀ p ∈ places, ∀ m, p.definition? = some m → m < places.length

theorem Numbered.concat {places : List Place} {p : Place} (h : Numbered places)
    (hp : ∀ m, p.definition? = some m → m < places.length) : Numbered (places ++ [p]) := by
  intro q hq m hm
  rw [List.length_append]
  rcases List.mem_append.mp hq with hq | hq
  · exact Nat.lt_add_right _ (h q hq m hm)
  · cases List.mem_singleton.mp hq
    exact Nat.lt_add_right _ (hp m hm)

theorem inside_concat_of_eq {places : List Place} {p : Place} {m : Nat}
    (h : p.definition? = some m) : inside (places ++ [p]) m = inside places m ++ [p] := by
  simp [inside, List.filter_append, h]

theorem inside_concat_of_ne {places : List Place} {p : Place} {m : Nat}
    (h : p.definition? ≠ some m) : inside (places ++ [p]) m = inside places m := by
  simp [inside, List.filter_append, h]

theorem inside_length_eq_nil {places : List Place} (h : Numbered places) :
    inside places places.length = [] := by
  rw [inside, List.filter_eq_nil_iff]
  intro p hp howner
  exact Nat.lt_irrefl _ (h p hp _ (of_decide_eq_true howner))

/-- **What a further place adds to the entries of a kind**: it is charged to its innermost
definition, if that is of the kind, and it has an entry of its own if it is of the kind itself. -/
theorem entries_inside_concat {α : Type} {kind : SyntaxTree → Bool}
    {facts? : List Place → SyntaxTree → Option α} {charge : Place → α → α}
    (hsome : ∀ inside node, (facts? inside node).isSome = kind node)
    (hconcat : ∀ inside p node, facts? (inside ++ [p]) node = (facts? inside node).map (charge p))
    {places : List Place} {p : Place} (hplaces : Numbered places)
    (hp : ∀ m, p.definition? = some m → m < places.length) :
    entries (fun m => facts? (inside (places ++ [p]) m)) (places ++ [p]) =
      modifyAt (entries (fun m => facts? (inside places m)) places)
        (p.definition?.bind (index? kind places)) (charge p) ++
        (facts? [] p.node).toList := by
  -- nothing is inside the new place yet, whatever it is
  have hfresh : inside (places ++ [p]) places.length = [] := by
    rw [inside_concat_of_ne, inside_length_eq_nil hplaces]
    exact fun h => Nat.lt_irrefl _ (hp _ h)
  have hcharged : entries (fun m => facts? (inside (places ++ [p]) m)) places =
      modifyAt (entries (fun m => facts? (inside places m)) places)
        (p.definition?.bind (index? kind places)) (charge p) := by
    cases howner : p.definition? with
    | none =>
      have hsame : inside (places ++ [p]) = inside places := by
        funext m
        exact inside_concat_of_ne (by rw [howner]; exact nofun)
      rw [hsame]
      rfl
    | some m =>
      refine entries_charge (fun n node => hsome _ node) (fun n hn => ?_) (fun node => ?_) places
      · rw [inside_concat_of_ne]
        rw [howner]
        exact fun h => hn (Option.some.inj h).symm
      · rw [inside_concat_of_eq howner]
        exact hconcat _ p node
  rw [entries_concat, hfresh, hcharged]

namespace Place

/-- What a node adds to the facts about the function that owns it. -/
def chargeFunction (p : Place) (f : FunctionFacts) : FunctionFacts :=
  { f with
    branches := f.branches + if p.is isBranch then 1 else 0
    maxNesting := if p.is isControl then max f.maxNesting (p.depth isControl) else f.maxNesting
    earlyReturns := f.earlyReturns + if p.is isExit && 0 < p.depth isControl then 1 else 0
    maxLoopDepth := if p.is isControl then max f.maxLoopDepth (p.depth isLoop) else f.maxLoopDepth
    ioInLoop := f.ioInLoop + if p.is isIoCall && 0 < p.depth isLoop then 1 else 0
    concatInLoop := f.concatInLoop + if p.is isTextAppend && 0 < p.depth isLoop then 1 else 0 }

/-- What a node adds to the facts about the class that owns it. -/
def chargeClass (p : Place) (c : ClassFacts) : ClassFacts :=
  { c with methods := c.methods + if p.is isFunction then 1 else 0 }

end Place

theorem isSome_functionFacts? (inside : List Place) (node : SyntaxTree) :
    (functionFacts? inside node).isSome = node.isFunction := by
  rw [functionFacts?]
  split <;> simp_all

theorem isSome_classFacts? (inside : List Place) (node : SyntaxTree) :
    (classFacts? inside node).isSome = node.isClass := by
  rw [classFacts?]
  split <;> simp_all

theorem functionFacts?_concat (inside : List Place) (p : Place) (node : SyntaxTree) :
    functionFacts? (inside ++ [p]) node = (functionFacts? inside node).map p.chargeFunction := by
  rw [functionFacts?, functionFacts?]
  split
  · rw [Option.map_some, Place.chargeFunction]
    simp only [List.countP_append, List.countP_singleton, List.filter_append]
    by_cases hcontrol : p.is isControl
    · simp [hcontrol]
    · simp [hcontrol]
  · rfl

theorem classFacts?_concat (inside : List Place) (p : Place) (node : SyntaxTree) :
    classFacts? (inside ++ [p]) node = (classFacts? inside node).map p.chargeClass := by
  rw [classFacts?, classFacts?]
  split
  · rw [Option.map_some, Place.chargeClass, List.countP_append, List.countP_singleton]
  · rfl

section

variable {places : List Place} {p : Place}

theorem functionsOf_concat (hplaces : Numbered places)
    (hp : ∀ m, p.definition? = some m → m < places.length) :
    functionsOf (places ++ [p]) =
      modifyAt (functionsOf places) (p.definition?.bind (index? isFunction places))
        p.chargeFunction ++ (functionFacts? [] p.node).toList :=
  entries_inside_concat isSome_functionFacts? functionFacts?_concat hplaces hp

theorem classesOf_concat (hplaces : Numbered places)
    (hp : ∀ m, p.definition? = some m → m < places.length) :
    classesOf (places ++ [p]) =
      modifyAt (classesOf places) (p.definition?.bind (index? isClass places))
        p.chargeClass ++ (classFacts? [] p.node).toList :=
  entries_inside_concat isSome_classFacts? classFacts?_concat hplaces hp

theorem length_functionsOf (places : List Place) :
    (functionsOf places).length = places.countP (·.is isFunction) :=
  length_entries (fun _ => isSome_functionFacts? _) places

theorem length_classesOf (places : List Place) :
    (classesOf places).length = places.countP (·.is isClass) :=
  length_entries (fun _ => isSome_classFacts? _) places

end

end Affinity.Python
