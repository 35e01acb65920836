import Affinity.Python.Survey

/-!
# The walk over a tree

The walk keeps a stack of nodes, each with the scope it is seen in. It takes the node on top,
records it, and pushes the nodes inside it, the last of them first. This module relates the walk to
the recursion over the tree itself, for everything that can be recorded of a node.

* `walk_append` — the walk is done with what is on top before it takes what is below.
* `walk_singleton` — so it records what `SyntaxTree.follow` records.
* `walk_logged` — it takes every node of the trees on its stack once, in preorder.
-/

namespace Affinity.Python

namespace SyntaxTree

mutual

/-- The nodes of a tree, each in front of those inside it. -/
def preorder : SyntaxTree → List SyntaxTree
  | mk label children => mk label children :: preorderAll children

/-- The nodes of several trees, one tree after the other. -/
def preorderAll : List SyntaxTree → List SyntaxTree
  | [] => []
  | tree :: rest => tree.preorder ++ preorderAll rest

end

theorem preorderAll_append (before after : List SyntaxTree) :
    preorderAll (before ++ after) = preorderAll before ++ preorderAll after := by
  induction before with
  | nil => rfl
  | cons tree rest ih => simp [preorderAll, ih]

variable {α : Type} (visit : α → Scope → SyntaxTree → α × Scope)

mutual

/-- Records a node and then the nodes inside it, each with what is inside it. -/
def follow (a : α) (scope : Scope) : SyntaxTree → α
  | mk label children =>
    let visited := visit a scope (mk label children)
    followAll visited.1 visited.2 (label.kind = .tryStatement) children

/-- Records the nodes inside a node, one after the other. With `handling`, failures are handled in
the first that is the body of the node around it. -/
def followAll (a : α) (scope : Scope) (handling : Bool) : List SyntaxTree → α
  | [] => a
  | child :: rest =>
    if handling && child.field = some .body then
      followAll (child.follow a { scope with guarded := true }) scope false rest
    else followAll (child.follow a scope) scope handling rest

end

end SyntaxTree

section

variable {α : Type} (visit : α → Scope → SyntaxTree → α × Scope)

theorem walk_nil (a : α) : walk visit a [] = a := by rw [walk]

theorem walk_cons (a : α) (tree : SyntaxTree) (scope : Scope)
    (stack : List (SyntaxTree × Scope)) :
    walk visit a ((tree, scope) :: stack) =
      walk visit (visit a scope tree).1 (tree.insides (visit a scope tree).2 ++ stack) := by
  rw [walk, push_eq]

/-- The walk is done with what is on top of its stack before it takes what is below. -/
theorem walk_append (a : α) (top rest : List (SyntaxTree × Scope)) :
    walk visit a (top ++ rest) = walk visit (walk visit a top) rest := by
  induction a, top using walk.induct visit with
  | case1 a => rw [walk_nil, List.nil_append]
  | case2 a tree scope stack ih =>
    rw [List.cons_append, walk_cons, walk_cons, ← List.append_assoc, ← push_eq _ stack, ih]

mutual

/-- **The walk is the recursion**: from a node, it records what following the tree records. -/
theorem walk_singleton (a : α) (scope : Scope) : ∀ tree : SyntaxTree,
    walk visit a [(tree, scope)] = tree.follow visit a scope
  | .mk label children => by
    rw [walk_cons, List.append_nil, SyntaxTree.follow]
    exact walk_seenIn _ _ _ children

theorem walk_seenIn (a : α) (scope : Scope) (handling : Bool) : ∀ children : List SyntaxTree,
    walk visit a (seenIn scope handling children) =
      SyntaxTree.followAll visit a scope handling children
  | [] => by rw [seenIn, walk_nil, SyntaxTree.followAll]
  | child :: rest => by
    rw [seenIn, SyntaxTree.followAll]
    split <;>
      rw [← List.singleton_append, walk_append, walk_singleton _ _ child, walk_seenIn _ _ _ rest]

end

/-! ## The order of the nodes -/

/-- Records a node and keeps it at the end of a list. -/
def logged (state : α × List SyntaxTree) (scope : Scope) (tree : SyntaxTree) :
    (α × List SyntaxTree) × Scope :=
  let visited := visit state.1 scope tree
  ((visited.1, state.2 ++ [tree]), visited.2)

/-- **The walk takes every node of the trees on its stack once, in preorder**, whatever was recorded
and kept before. To keep the nodes changes nothing in what is recorded. -/
theorem walk_logged (a : α) (log : List SyntaxTree) (stack : List (SyntaxTree × Scope)) :
    walk (logged visit) (a, log) stack =
      (walk visit a stack, log ++ SyntaxTree.preorderAll (stack.map (·.1))) := by
  induction a, stack using walk.induct visit generalizing log with
  | case1 a => simp [walk_nil, SyntaxTree.preorderAll]
  | case2 a tree scope stack ih =>
    have hinside : tree :: SyntaxTree.preorderAll tree.children = tree.preorder := by
      cases tree with
      | mk label children => rw [SyntaxTree.preorder, SyntaxTree.children]
    have hstack : SyntaxTree.preorderAll (((tree, scope) :: stack).map (·.1)) =
        tree :: SyntaxTree.preorderAll
          ((push (tree.insides (visit a scope tree).2) stack).map (·.1)) := by
      rw [push_eq, List.map_append, SyntaxTree.insides, map_fst_seenIn,
        SyntaxTree.preorderAll_append, ← List.cons_append, hinside, List.map_cons,
        SyntaxTree.preorderAll]
    have hrest := ih (log ++ [tree])
    rw [List.append_assoc, List.singleton_append, ← hstack] at hrest
    rw [walk_cons, walk_cons, ← push_eq, ← push_eq _ stack, ← hrest]
    rfl

end

end Affinity.Python
