import Affinity.Table
import Affinity.Text.Lines

/-!
# Syntax trees of Python

A syntax tree has a node for each part of a program that the grammar names. Signs and words that
hold the parts together are no nodes. A node knows its kind, what it is to the node around it, its
text and its lines; the nodes inside it stand in the order of the text.

* `SyntaxTree.child?` — the node inside a node that is something to it.
* `SyntaxTree.isDocumented` — a definition that opens with a docstring.
* `SyntaxTree.paramCount`, `SyntaxTree.boundNames`, `SyntaxTree.importTargets` — what is read off
  the nodes inside a parameter list, an assignment and an import.
-/

namespace Affinity.Python

/-- The first and the last line of a node, from zero. -/
structure Span where
  first : Nat
  last : Nat
  deriving DecidableEq, Repr

namespace Span

/-- The number of the first line, from one. -/
def line (s : Span) : Nat := s.first + 1

/-- The number of lines. -/
def lines (s : Span) : Nat := s.last - s.first + 1

end Span

/-- The kind of a node, as the grammar names it. -/
inductive Kind where
  | functionDefinition
  | classDefinition
  | ifStatement
  | forStatement
  | whileStatement
  | tryStatement
  | withStatement
  | matchStatement
  | elifClause
  /-- A clause that handles failures; one that handles groups of failures is `other`. -/
  | exceptClause
  | caseClause
  /-- One value or another, by a condition. -/
  | conditionalExpression
  /-- `and` or `or`. -/
  | booleanOperator
  /-- A loop of a comprehension. -/
  | forInClause
  /-- A condition of a comprehension or of a `case`. -/
  | ifClause
  | returnStatement
  | raiseStatement
  | assertStatement
  | comparisonOperator
  | call
  /-- An assignment that computes, such as `+=`. -/
  | augmentedAssignment
  | assignment
  | importStatement
  | importFromStatement
  /-- A module that is imported under another name. -/
  | aliasedImport
  | expressionStatement
  | string
  /-- Several strings next to each other. -/
  | concatenatedString
  | identifier
  | attribute
  | subscript
  | listSplat
  | parenthesizedExpression
  | tuple
  | list
  | expressionList
  /-- What stands for several values on the left of an assignment. -/
  | patternList
  | tuplePattern
  | listPattern
  | keywordSeparator
  | positionalSeparator
  | comment
  /-- Any other kind; nothing tells these apart. -/
  | other
  deriving DecidableEq, Repr

/-- What a node is to the node around it. -/
inductive Field where
  | name
  | parameters
  | body
  | left
  | right
  | function
  | arguments
  | moduleName
  deriving DecidableEq, Repr

/-- What a node is by itself. -/
structure Label where
  kind : Kind
  field : Option Field := none
  /-- The node as it is written. -/
  text : List Char := []
  /-- The sign of an assignment that computes. -/
  operator : List Char := []
  span : Span := ⟨0, 0⟩
  deriving DecidableEq, Repr

/-- A node and the nodes inside it. -/
inductive SyntaxTree where
  | mk (label : Label) (children : List SyntaxTree)
  deriving Repr

namespace SyntaxTree

/-- What the node is by itself. -/
def label : SyntaxTree → Label
  | mk label _ => label

/-- The nodes directly inside the node. -/
def children : SyntaxTree → List SyntaxTree
  | mk _ children => children

/-- The kind of the node. -/
def kind (tree : SyntaxTree) : Kind := tree.label.kind

/-- What the node is to the node around it. -/
def field (tree : SyntaxTree) : Option Field := tree.label.field

/-- The node as it is written. -/
def text (tree : SyntaxTree) : List Char := tree.label.text

/-- The lines of the node. -/
def span (tree : SyntaxTree) : Span := tree.label.span

mutual

/-- The number of nodes. -/
def size : SyntaxTree → Nat
  | mk _ children => sizeAll children + 1

/-- The number of nodes of several trees. -/
def sizeAll : List SyntaxTree → Nat
  | [] => 0
  | tree :: rest => tree.size + sizeAll rest

end

theorem sizeAll_append (before after : List SyntaxTree) :
    sizeAll (before ++ after) = sizeAll before + sizeAll after := by
  induction before with
  | nil => simp [sizeAll]
  | cons tree rest ih => simp [sizeAll, ih, Nat.add_assoc]

/-- The first node inside that is the given thing to the node. -/
def child? (tree : SyntaxTree) (field : Field) : Option SyntaxTree :=
  tree.children.find? fun child => child.field = some field

/-- The text of the node inside that is the given thing to the node; empty if there is none. -/
def textOf (tree : SyntaxTree) (field : Field) : List Char :=
  (tree.child? field).elim [] text

/-- The name of a definition. -/
def name (tree : SyntaxTree) : String := String.ofList (tree.textOf .name)

/-! ## Documentation -/

/-- The node is a string literal, or several next to each other. -/
def isString (tree : SyntaxTree) : Bool :=
  tree.kind = .string || tree.kind = .concatenatedString

/-- A statement that is nothing but a string. -/
def isDocstring (statement : SyntaxTree) : Bool :=
  statement.kind = .expressionStatement && statement.children.head?.any isString

/-- The first statement inside a node is a docstring. -/
def opensWithDocstring (tree : SyntaxTree) : Bool :=
  (tree.children.find? fun child => child.kind ≠ .comment).any isDocstring

/-- The body of a definition opens with a docstring. -/
def isDocumented (definition : SyntaxTree) : Bool :=
  (definition.child? .body).any opensWithDocstring

/-! ## Parameters, names and modules -/

/-- A parameter list holds the node without taking it for a parameter. -/
def dividesParameters (tree : SyntaxTree) : Bool :=
  tree.kind = .keywordSeparator || tree.kind = .positionalSeparator || tree.kind = .comment

/-- The receiver of a method, where it comes first. -/
def isReceiver (tree : SyntaxTree) : Bool :=
  tree.text = "self".toList || tree.text = "cls".toList

/-- The number of parameters of a definition without its receiver. -/
def paramCount (definition : SyntaxTree) : Nat :=
  (definition.child? .parameters).elim 0 fun list =>
    list.children.zipIdx.countP fun (param, i) =>
      !param.dividesParameters && !(i = 0 && param.isReceiver)

mutual

/-- The plain names that an assignment to the node binds. -/
def boundNames : SyntaxTree → List String
  | mk label children =>
    match label.kind with
    | .identifier => [String.ofList label.text]
    | .patternList | .tuplePattern | .listPattern => boundNamesAll children
    | _ => []

/-- The plain names that an assignment to several nodes binds. -/
def boundNamesAll : List SyntaxTree → List String
  | [] => []
  | tree :: rest => tree.boundNames ++ boundNamesAll rest

end

/-- The modules that an import names, without the names they are given. -/
def importTargets (statement : SyntaxTree) : List String :=
  (statement.children.filter fun child => child.field = some .name).map fun target =>
    if target.kind = .aliasedImport then target.name else String.ofList target.text

/-- The module that names are imported from, if one is named. -/
def importSources (statement : SyntaxTree) : List String :=
  let source := statement.textOf .moduleName
  if source.isEmpty then [] else [String.ofList source]

/-- A string is added to a variable. -/
def addsString (assignment : SyntaxTree) : Bool :=
  assignment.label.operator = "+=".toList && (assignment.child? .right).any isString

end SyntaxTree

/-- A grammar reads the syntax tree of a text, unless there is something wrong with the text. -/
class Grammar where
  parse? : List Char → Option SyntaxTree

end Affinity.Python
