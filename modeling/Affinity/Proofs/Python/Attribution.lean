import Affinity.Proofs.Facts.Survey
import Affinity.Proofs.Python.Places

/-!
# Which definition a node is charged to

The survey knows what is around a node from a copied scope: two indices and two counts. This module
shows that these always agree with the place of the node in the tree, and so that what is found of a
program is what its places say.

* `Survey.Covers` — what was counted is what the places so far say.
* `Scope.Knows` — a scope agrees with the nodes around a place.
* `Survey.Covers.step`, `Scope.Knows.step` — both are kept by every node.
* `treeFacts_places` — so it is with every node of a program charged to the innermost definition
  around it.
-/

namespace Affinity.Python

open SyntaxTree (construct? isFunction isClass isDefinition isControl isLoop isBranch isExit
  isIoCall isTextAppend)

/-! ## What a construct adds -/

namespace Construct

/-- What a construct adds to the facts about the function around it, from which it is `nesting`
control statements and `loops` loops away. -/
def charge (nesting loops : Nat) : Construct → FunctionFacts → FunctionFacts
  | control kind => fun f =>
    { f with
      branches := f.branches + if kind = .other then 0 else 1
      maxNesting := max f.maxNesting (nesting + 1)
      maxLoopDepth := max f.maxLoopDepth (loops + if kind = .loop then 1 else 0) }
  | branch => fun f => { f with branches := f.branches + 1 }
  | exit _ => fun f => { f with earlyReturns := f.earlyReturns + if 0 < nesting then 1 else 0 }
  | call callee _ => fun f =>
    { f with ioInLoop := f.ioInLoop + if 0 < loops && ioCall.isMatch callee then 1 else 0 }
  | augment addsString => fun f =>
    { f with concatInLoop := f.concatInLoop + if addsString && 0 < loops then 1 else 0 }
  | _ => id

/-- The facts about a function that was just found. -/
def function? : Construct → Option FunctionFacts
  | function name params _ span => some { name, line := span.line, lines := span.lines, params }
  | _ => none

/-- What a construct adds to the facts about the class around it. -/
def chargeClass : Construct → ClassFacts → ClassFacts
  | function .. => fun c => { c with methods := c.methods + 1 }
  | _ => id

/-- The facts about a class that was just found. -/
def class? : Construct → Option ClassFacts
  | classLike name _ span => some { name, line := span.line, lines := span.lines }
  | _ => none

end Construct

namespace Survey

/-- A symbol is no class yet. -/
theorem classes_symbol (s : Survey) (casings : List Casing) (name : String) (documented : Bool) :
    (s.symbol casings name documented).classes = s.classes := by
  unfold symbol
  extract_lets named
  split
  · rfl
  · rfl

theorem functions_charge (s : Survey) (scope : Scope) (change : FunctionFacts → FunctionFacts) :
    (s.charge scope change).functions = modifyAt s.functions scope.function change := by
  unfold charge
  split
  case h_1 index h => rw [h]; rfl
  case h_2 h => rw [h]; rfl

theorem classes_charge (s : Survey) (scope : Scope) (change : FunctionFacts → FunctionFacts) :
    (s.charge scope change).classes = s.classes := by
  unfold charge
  split
  · rfl
  · rfl

/-- A change made under a condition is charged as a change that makes no difference without it. -/
theorem functions_charge_if (s : Survey) (scope : Scope) (condition : Prop) [Decidable condition]
    {change charged : FunctionFacts → FunctionFacts} (hyes : condition → charged = change)
    (hno : ¬ condition → charged = id) :
    (if condition then s.charge scope change else s).functions =
      modifyAt s.functions scope.function charged := by
  split
  · next h => rw [hyes h, functions_charge]
  · next h => rw [hno h, modifyAt_id]

theorem classes_charge_if (s : Survey) (scope : Scope) (condition : Prop) [Decidable condition]
    (change : FunctionFacts → FunctionFacts) :
    (if condition then s.charge scope change else s).classes = s.classes := by
  split
  · exact classes_charge s scope change
  · rfl

/-- The counts of a call that belong to no definition. They are variables here, so that nothing
evaluates what they are in `addCall`. -/
theorem functions_recount (s : Survey) (risk guarded checks assertions : Nat) :
    ({ s.addRisk risk guarded checks with assertions } : Survey).functions = s.functions :=
  rfl

theorem classes_recount (s : Survey) (risk guarded checks assertions : Nat) :
    ({ s.addRisk risk guarded checks with assertions } : Survey).classes = s.classes :=
  rfl

theorem functions_addCall (s : Survey) (scope : Scope) (callee arguments : List Char) :
    (s.addCall scope callee arguments).functions =
      modifyAt s.functions scope.function
        (Construct.charge scope.nesting scope.loops (.call callee arguments)) := by
  unfold addCall
  extract_lets risk risked asserted charged
  have hasserted : asserted.functions = s.functions := functions_recount s ..
  have hcharged : charged.functions = modifyAt s.functions scope.function
      (Construct.charge scope.nesting scope.loops (.call callee arguments)) := by
    rw [← hasserted]
    exact functions_charge_if asserted scope _ (fun h => by simp only [Construct.charge, h]; rfl)
      (fun h => by simp only [Construct.charge, h]; rfl)
  split
  · exact hcharged
  · exact hcharged

theorem classes_addCall (s : Survey) (scope : Scope) (callee arguments : List Char) :
    (s.addCall scope callee arguments).classes = s.classes := by
  unfold addCall
  extract_lets risk risked asserted charged
  have hasserted : asserted.classes = s.classes := classes_recount s ..
  have hcharged : charged.classes = s.classes := by
    rw [← hasserted]
    exact classes_charge_if asserted scope _ _
  split
  · exact hcharged
  · exact hcharged

section

variable {α : Type} {before after : List α} {index : Option Nat} {change : α → α}
  {added : Option α}

/-- A definition is changed and none is added. -/
theorem eq_of_charged (hadded : added = none) (h : after = modifyAt before index change) :
    after = modifyAt before index change ++ added.toList := by
  rw [hadded, h]
  exact (List.append_nil _).symm

/-- No definition is changed or added. -/
theorem eq_of_idle (hadded : added = none) (hchange : change = id) (h : after = before) :
    after = modifyAt before index change ++ added.toList := by
  apply eq_of_charged hadded
  rw [hchange, modifyAt_id, h]

/-- A definition is added behind the others. -/
theorem eq_of_added {a : α} (hadded : added = some a) (hchange : change = id)
    (h : after = before ++ [a]) : after = modifyAt before index change ++ added.toList := by
  rw [hadded, hchange, modifyAt_id, h]
  rfl

end

/-- **What a construct does to the functions**: the one around it is charged, and a function that is
defined comes behind those found before. -/
theorem functions_visit (s : Survey) (scope : Scope) (c : Construct) :
    (s.visit scope c).functions =
      modifyAt s.functions scope.function (c.charge scope.nesting scope.loops) ++
        c.function?.toList := by
  cases c with
  | function name params documented span =>
    apply eq_of_added rfl rfl
    rw [← functions_symbol s [.snake] name documented]
    rfl
  | classLike name documented span => exact eq_of_idle rfl rfl (functions_symbol ..)
  | control kind => exact eq_of_charged rfl (functions_charge ..)
  | branch => exact eq_of_charged rfl (functions_charge ..)
  | exit raising =>
    have hcharged : ∀ t : Survey,
        (if 0 < scope.nesting then
          t.charge scope fun f => { f with earlyReturns := f.earlyReturns + 1 } else t).functions =
          modifyAt t.functions scope.function
            (Construct.charge scope.nesting scope.loops (.exit raising)) :=
      fun t => functions_charge_if t scope _ (fun h => by simp only [Construct.charge, h]; rfl)
        (fun h => by simp only [Construct.charge, h]; rfl)
    cases raising with
    | false => exact eq_of_charged rfl (hcharged s)
    | true => exact eq_of_charged rfl (hcharged (s.addRisk 0 0 1))
  | call callee arguments => exact eq_of_charged rfl (functions_addCall ..)
  | augment addsString =>
    exact eq_of_charged rfl
      (functions_charge_if s scope _ (fun h => by simp only [Construct.charge, h]; rfl)
        (fun h => by simp only [Construct.charge, h]; rfl))
  | comparison text =>
    apply eq_of_idle rfl rfl
    rw [visit]
    split
    · rfl
    · rfl
  | _ => exact eq_of_idle rfl rfl rfl

/-- **What a construct does to the classes.** -/
theorem classes_visit (s : Survey) (scope : Scope) (c : Construct) :
    (s.visit scope c).classes =
      modifyAt s.classes scope.classLike c.chargeClass ++ c.class?.toList := by
  cases c with
  | function name params documented span =>
    apply eq_of_charged rfl
    rw [visit, addFunction, classes_symbol]
    cases scope.classLike with
    | none => rfl
    | some index => rfl
  | classLike name documented span =>
    apply eq_of_added rfl rfl
    rw [← classes_symbol s [.pascal] name documented]
    rfl
  | control kind => exact eq_of_idle rfl rfl (classes_charge ..)
  | branch => exact eq_of_idle rfl rfl (classes_charge ..)
  | exit raising =>
    apply eq_of_idle rfl rfl
    rw [visit, classes_charge_if]
    cases raising with
    | false => rfl
    | true => rfl
  | call callee arguments => exact eq_of_idle rfl rfl (classes_addCall ..)
  | augment addsString => exact eq_of_idle rfl rfl (classes_charge_if ..)
  | comparison text =>
    apply eq_of_idle rfl rfl
    rw [visit]
    split
    · rfl
    · rfl
  | _ => exact eq_of_idle rfl rfl rfl

end Survey

/-! ## What a node adds, by its kind -/

section

variable (tree : SyntaxTree) (above : Surroundings)

theorem chargeFunction_eq :
    (Place.mk tree above).chargeFunction =
      tree.construct?.elim id (·.charge (above.depth isControl) (above.depth isLoop)) := by
  funext f
  cases hkind : tree.kind with
  | _ =>
    simp [Place.chargeFunction, isBranch, isControl, isLoop, isExit, isIoCall, isTextAppend,
      construct?, Construct.charge, hkind, and_comm]

theorem chargeClass_eq :
    (Place.mk tree above).chargeClass = tree.construct?.elim id Construct.chargeClass := by
  funext c
  cases hkind : tree.kind with
  | _ => simp [Place.chargeClass, isFunction, construct?, Construct.chargeClass, hkind]

theorem functionFacts?_nil : functionFacts? [] tree = tree.construct?.bind Construct.function? := by
  cases hkind : tree.kind with
  | _ => simp [functionFacts?, isFunction, construct?, Construct.function?, hkind]

theorem classFacts?_nil : classFacts? [] tree = tree.construct?.bind Construct.class? := by
  cases hkind : tree.kind with
  | _ => simp [classFacts?, isClass, construct?, Construct.class?, hkind]

/-- Inside a definition the nodes belong to that; inside a control statement they are deeper. -/
theorem scope_step (s : Survey) (scope : Scope) :
    (s.step scope tree).2 =
      if tree.isFunction then { function := some s.functions.length }
      else if tree.isClass then { classLike := some s.classes.length }
      else
        { scope with
          nesting := scope.nesting + if tree.isControl then 1 else 0
          loops := scope.loops + if tree.isLoop then 1 else 0 } := by
  cases hkind : tree.kind with
  | _ =>
    simp [Survey.step, Scope.inside, isFunction, isClass, isControl, isLoop, construct?, hkind]

end

/-! ## Surroundings -/

namespace Surroundings

variable (n : Nat) (node : SyntaxTree) (above : Surroundings)

theorem definition?_cons :
    definition? ((n, node) :: above) =
      if node.isDefinition then some n else above.definition? := by
  rw [definition?, List.find?_cons]
  cases node.isDefinition with
  | false => rfl
  | true => rfl

theorem depth_cons (kind : SyntaxTree → Bool) :
    depth kind ((n, node) :: above) =
      if node.isDefinition then 0 else above.depth kind + if kind node then 1 else 0 := by
  rw [depth, List.takeWhile_cons]
  cases node.isDefinition with
  | false => exact List.countP_cons
  | true => rfl

end Surroundings

/-! ## The invariant -/

/-- What was counted is what the places say. -/
structure Survey.Covers (s : Survey) (places : List Place) : Prop where
  functions : s.functions = functionsOf places
  classes : s.classes = classesOf places
  numbered : Numbered places

/-- The scope agrees with the nodes around a place: it has the position of the innermost definition
among the functions or classes found so far, and counts the control statements inside it. -/
structure Scope.Knows (scope : Scope) (places : List Place) (above : Surroundings) : Prop where
  before : ∀ m, above.definition? = some m → m < places.length
  function : scope.function = above.definition?.bind (index? isFunction places)
  classLike : scope.classLike = above.definition?.bind (index? isClass places)
  nesting : scope.nesting = above.depth isControl
  loops : scope.loops = above.depth isLoop

variable {s : Survey} {scope : Scope} {places : List Place} {above : Surroundings}

theorem Survey.covers_nil : Survey.Covers {} [] where
  functions := rfl
  classes := rfl
  numbered := nofun

/-- At the margin of a program. -/
theorem Scope.knows_nil (places : List Place) : Scope.Knows {} places [] where
  before := nofun
  function := rfl
  classLike := rfl
  nesting := rfl
  loops := rfl

/-- Positions stay as they are when further places come. -/
theorem Scope.Knows.append (h : scope.Knows places above) (rest : List Place) :
    scope.Knows (places ++ rest) above := by
  have hindex : ∀ kind, above.definition?.bind (index? kind (places ++ rest)) =
      above.definition?.bind (index? kind places) := by
    intro kind
    cases howner : above.definition? with
    | none => rfl
    | some m => exact index?_append (h.before m howner) rest
  refine ⟨fun m hm => ?_, ?_, ?_, h.nesting, h.loops⟩
  · rw [List.length_append]
    exact Nat.lt_add_right _ (h.before m hm)
  · rw [hindex, h.function]
  · rw [hindex, h.classLike]

/-- **Every node is charged to the innermost definition around it.** -/
theorem Survey.Covers.step (h : s.Covers places) (hscope : scope.Knows places above)
    (tree : SyntaxTree) : (s.step scope tree).1.Covers (places ++ [⟨tree, above⟩]) := by
  have hfunctions := functionsOf_concat (p := ⟨tree, above⟩) h.numbered hscope.before
  have hclasses := classesOf_concat (p := ⟨tree, above⟩) h.numbered hscope.before
  rw [Place.definition?, ← hscope.function, ← h.functions, chargeFunction_eq, functionFacts?_nil,
    ← hscope.nesting, ← hscope.loops] at hfunctions
  rw [Place.definition?, ← hscope.classLike, ← h.classes, chargeClass_eq, classFacts?_nil]
    at hclasses
  refine ⟨?_, ?_, h.numbered.concat hscope.before⟩
  · rw [hfunctions, Survey.step]
    cases tree.construct? with
    | none => exact ((List.append_nil _).trans (modifyAt_id _ _)).symm
    | some c => exact s.functions_visit scope c
  · rw [hclasses, Survey.step]
    cases tree.construct? with
    | none => exact ((List.append_nil _).trans (modifyAt_id _ _)).symm
    | some c => exact s.classes_visit scope c

/-- Whether failures are handled makes no difference to where a node is. -/
theorem Scope.Knows.guard (h : scope.Knows places above) (guarded : Bool) :
    Scope.Knows { scope with guarded } places above :=
  ⟨h.before, h.function, h.classLike, h.nesting, h.loops⟩

/-- Directly inside a definition, which is found last. -/
theorem Scope.knows_definition {node : SyntaxTree} (hnode : node.isDefinition = true)
    (places : List Place) (above : Surroundings) :
    Scope.Knows
      { function := if node.isFunction then some (places.countP (·.is isFunction)) else none
        classLike := if node.isClass then some (places.countP (·.is isClass)) else none }
      (places ++ [⟨node, above⟩]) ((places.length, node) :: above) := by
  have howner : Surroundings.definition? ((places.length, node) :: above) =
      some places.length := by
    rw [Surroundings.definition?_cons, if_pos hnode]
  have hdepth : ∀ kind, Surroundings.depth kind ((places.length, node) :: above) = 0 := by
    intro kind
    rw [Surroundings.depth_cons, if_pos hnode]
  refine ⟨?_, ?_, ?_, (hdepth _).symm, (hdepth _).symm⟩
  · rintro m hm
    rw [howner] at hm
    cases hm
    simp
  · rw [howner, Option.bind_some, index?_length, Place.is_mk]
  · rw [howner, Option.bind_some, index?_length, Place.is_mk]

/-- Inside a node that is no definition the owner stays, and the depth grows with the node. -/
theorem Scope.Knows.cons (h : scope.Knows places above) {node : SyntaxTree}
    (hnode : node.isDefinition = false) (n : Nat) :
    Scope.Knows
      { scope with
        nesting := scope.nesting + if node.isControl then 1 else 0
        loops := scope.loops + if node.isLoop then 1 else 0 }
      places ((n, node) :: above) := by
  have howner : Surroundings.definition? ((n, node) :: above) = above.definition? := by
    rw [Surroundings.definition?_cons, hnode]
    rfl
  have hdepth : ∀ kind, Surroundings.depth kind ((n, node) :: above) =
      above.depth kind + if kind node then 1 else 0 := by
    intro kind
    rw [Surroundings.depth_cons, hnode]
    rfl
  refine ⟨?_, ?_, ?_, ?_, ?_⟩
  · rw [howner]
    exact h.before
  · rw [howner]
    exact h.function
  · rw [howner]
    exact h.classLike
  · rw [hdepth, h.nesting]
  · rw [hdepth, h.loops]

/-- **The nodes inside a node are seen in a scope that knows what is around them.** -/
theorem Scope.Knows.step (hscope : scope.Knows places above) (h : s.Covers places)
    (tree : SyntaxTree) :
    (s.step scope tree).2.Knows (places ++ [⟨tree, above⟩]) ((places.length, tree) :: above) := by
  have hfunctions : s.functions.length = places.countP (·.is isFunction) := by
    rw [h.functions, length_functionsOf]
  have hclasses : s.classes.length = places.countP (·.is isClass) := by
    rw [h.classes, length_classesOf]
  rw [scope_step, hfunctions, hclasses]
  cases hfunction : tree.isFunction with
  | true =>
    have hnode : tree.isDefinition = true := by rw [isDefinition, hfunction, Bool.true_or]
    have hclass : tree.isClass = false := by simp_all [isFunction, isClass]
    have hinside := Scope.knows_definition hnode places above
    rw [hfunction, hclass] at hinside
    exact hinside
  | false =>
    cases hclass : tree.isClass with
    | true =>
      have hnode : tree.isDefinition = true := by rw [isDefinition, hclass, Bool.or_true]
      have hinside := Scope.knows_definition hnode places above
      rw [hfunction, hclass] at hinside
      exact hinside
    | false =>
      have hnode : tree.isDefinition = false := by rw [isDefinition, hfunction, hclass]; rfl
      exact (hscope.append [⟨tree, above⟩]).cons hnode places.length

/-! ## Trees -/

namespace SyntaxTree

mutual

theorem covers_follow {s : Survey} {scope : Scope} {places : List Place} {above : Surroundings}
    (h : s.Covers places) (hscope : scope.Knows places above) : ∀ tree : SyntaxTree,
    (tree.follow Survey.step s scope).Covers (places ++ tree.placesFrom places.length above)
  | mk label children => by
    have hinside := covers_followAll (h.step hscope (mk label children))
      (hscope.step h (mk label children)) (label.kind = .tryStatement) children
    rw [List.length_append, List.append_assoc] at hinside
    rw [follow]
    exact hinside

theorem covers_followAll {s : Survey} {scope : Scope} {places : List Place} {above : Surroundings}
    (h : s.Covers places) (hscope : scope.Knows places above) (handling : Bool) :
    ∀ trees : List SyntaxTree,
      (followAll Survey.step s scope handling trees).Covers
        (places ++ placesFromAll places.length above trees)
  | [] => by
    rw [followAll, placesFromAll, List.append_nil]
    exact h
  | child :: rest => by
    rw [followAll, placesFromAll]
    split
    · have hrest := covers_followAll (covers_follow h (hscope.guard true) child) (hscope.append _)
        false rest
      rw [List.length_append, List.append_assoc] at hrest
      exact hrest
    · have hrest := covers_followAll (covers_follow h hscope child) (hscope.append _) handling rest
      rw [List.length_append, List.append_assoc] at hrest
      exact hrest

end

end SyntaxTree

/-- **Attribution.** The walk takes every node of a syntax tree once, in preorder, and records what
the recursion over the tree records. What is found of the program is what the places of these nodes
say: a function or class for each definition, in the order of the text, and each node charged to the
innermost definition around it. -/
theorem treeFacts_places (file : SourceFile) (rows : List Row) (tree : SyntaxTree) :
    walk (logged Survey.step) ({}, []) [(tree, {})] = (survey tree, tree.preorder) ∧
      survey tree = tree.follow Survey.step {} {} ∧
      tree.places.map (·.node) = tree.preorder ∧
      (∀ p ∈ tree.places, p.above.Known tree.places) ∧
      (treeFacts file rows tree).functions = functionsOf tree.places ∧
      (treeFacts file rows tree).classes = classesOf tree.places := by
  have hfollow : survey tree = tree.follow Survey.step {} {} := walk_singleton _ _ _ tree
  have hcovers : (survey tree).Covers tree.places := by
    rw [hfollow]
    exact tree.covers_follow Survey.covers_nil (Scope.knows_nil [])
  refine ⟨?_, hfollow, tree.map_node_places, tree.known_places, hcovers.functions,
    hcovers.classes⟩
  rw [walk_logged, List.map_singleton, SyntaxTree.preorderAll, SyntaxTree.preorderAll,
    List.append_nil, List.nil_append]
  rfl

/-- A function that is defined in a loop of another begins at depth zero. -/
example :
    functionsOf (SyntaxTree.places (.mk { kind := .functionDefinition, span := ⟨0, 3⟩ } [
      .mk { kind := .identifier, field := some .name, text := "outer".toList } [],
      .mk { kind := .forStatement } [
        .mk { kind := .functionDefinition, span := ⟨1, 2⟩ } [
          .mk { kind := .identifier, field := some .name, text := "inner".toList } [],
          .mk { kind := .ifStatement } []]]])) =
    [{ name := "outer", line := 1, lines := 4, branches := 1, maxNesting := 1, maxLoopDepth := 1 },
      { name := "inner", line := 2, lines := 2, branches := 1, maxNesting := 1 }] :=
  rfl

end Affinity.Python
