import Affinity.Facts
import Affinity.Python.Tree
import Affinity.Rules.Extract
import Affinity.Rules.Tables

/-!
# Facts by the tree of a program

Some kinds of nodes are counted; `SyntaxTree.construct?` says which, and what is counted of them.
`walk` visits the nodes of a tree with a stack. Each node is seen in a `Scope`, which knows the
innermost definition around it and the control statements and loops between the two, and is charged
to that definition.
-/

namespace Affinity.Python

/-! ## What is counted -/

/-- A statement that controls the statements inside it. -/
inductive Control where
  /-- `if`. -/
  | conditional
  /-- `for` or `while`. -/
  | loop
  /-- `try`, `with` or `match`. -/
  | other
  deriving DecidableEq, Repr

/-- What a node stands for that is counted. -/
inductive Construct where
  | function (name : String) (params : Nat) (documented : Bool) (span : Span)
  | classLike (name : String) (documented : Bool) (span : Span)
  | control (kind : Control)
  /-- A clause or operator that adds a branch. -/
  | branch
  /-- `return`, or `raise` if `raising`. -/
  | exit (raising : Bool)
  | assertion
  /-- A comparison, as it is written. -/
  | comparison (text : List Char)
  /-- A call: what is called and the arguments in their parentheses, as they are written. -/
  | call (callee arguments : List Char)
  /-- An assignment that computes, and whether it adds a string literal to a variable. -/
  | augment (addsString : Bool)
  /-- An assignment and the plain names that it binds. -/
  | binding (names : List String)
  /-- Imported modules. -/
  | imports (targets : List String)
  deriving DecidableEq, Repr

/-- What a node stands for, by its kind; nothing if nothing is counted of it. -/
def SyntaxTree.construct? (tree : SyntaxTree) : Option Construct :=
  match tree.kind with
  | .functionDefinition =>
    some (.function tree.name tree.paramCount tree.isDocumented tree.span)
  | .classDefinition => some (.classLike tree.name tree.isDocumented tree.span)
  | .ifStatement => some (.control .conditional)
  | .forStatement | .whileStatement => some (.control .loop)
  | .tryStatement | .withStatement | .matchStatement => some (.control .other)
  | .elifClause | .exceptClause | .caseClause | .conditionalExpression | .booleanOperator
  | .forInClause | .ifClause => some .branch
  | .returnStatement => some (.exit false)
  | .raiseStatement => some (.exit true)
  | .assertStatement => some .assertion
  | .comparisonOperator => some (.comparison tree.text)
  | .call => some (.call (tree.textOf .function) (tree.textOf .arguments))
  | .augmentedAssignment => some (.augment tree.addsString)
  | .assignment => some (.binding ((tree.child? .left).elim [] SyntaxTree.boundNames))
  | .importStatement => some (.imports tree.importTargets)
  | .importFromStatement => some (.imports tree.importSources)
  | _ => none

/-- What is around a node. -/
structure Scope where
  /-- The innermost definition, if it is a function: its index. -/
  function : Option Nat := none
  /-- The innermost definition, if it is a class: its index. -/
  classLike : Option Nat := none
  /-- Control statements inside the innermost definition. -/
  nesting : Nat := 0
  /-- Loops among them. -/
  loops : Nat := 0
  /-- The node is in the body of a `try` inside the innermost definition. -/
  guarded : Bool := false
  deriving DecidableEq, Repr

/-- What was counted so far. -/
structure Survey where
  functions : List FunctionFacts := []
  classes : List ClassFacts := []
  /-- Names of functions and classes with the conventions for them, in order. -/
  names : List (List Casing × String) := []
  /-- Names that are assigned to. -/
  bindings : List String := []
  publicSymbols : Nat := 0
  documentedSymbols : Nat := 0
  errors : ErrorFacts := {}
  testFunctions : Nat := 0
  assertions : Nat := 0
  security : Table String Nat := {}
  imports : List String := []
  deriving DecidableEq, Repr

/-! ## Calls -/

/-- A call that can fail. -/
def riskyCall : Pattern := .ofString
  r"^(?:open|int|float|input|urlopen|requests\.\w+|httpx\.\w+|json\.loads?|yaml\.(?:safe_)?load|pickle\.loads?|subprocess\.\w+|urllib\.request\.\w+|socket\.\w+|os\.(?:remove|rename|makedirs|mkdir|listdir)|shutil\.\w+)$|\.(?:read|write|connect|execute|executemany|fetchall|fetchone|urlopen)$"

/-- A call that reads or writes. -/
def ioCall : Pattern := .ofString
  r"^(?:print|open|input|urlopen|requests\.\w+|httpx\.\w+)$|\.(?:read|readline|readlines|write|execute|fetchall|fetchone|send|recv|commit)$"

/-- A call that asserts something in a test. -/
def assertingCall : Pattern := .ofString r"^self\.assert\w+$|^pytest\.raises$"

/-- A comparison with nothing. -/
def noneCheck : Pattern := .ofString r"\bis\s+(?:not\s+)?None\b"

/-- The kind of danger that a call is. -/
def dangerOf? (callee arguments : List Char) : Option String :=
  let name := String.ofList callee
  if ["eval", "exec"].contains name then some "eval"
  else if ["os.system", "os.popen"].contains name then some "command_injection"
  else if startsWith callee "subprocess." && contains arguments "shell=True".toList then
    some "command_injection"
  else if ["pickle.load", "pickle.loads", "marshal.load", "marshal.loads"].contains name then
    some "unsafe_deserialization"
  else if name = "yaml.load" && !contains arguments "Loader".toList then
    some "unsafe_deserialization"
  else if ["hashlib.md5", "hashlib.sha1"].contains name then some "weak_crypto"
  else none

/-! ## Nodes -/

namespace Survey

/-- Changes the function around a node, if there is one. -/
def charge (s : Survey) (scope : Scope) (f : FunctionFacts → FunctionFacts) : Survey :=
  match scope.function with
  | some index => { s with functions := s.functions.modify index f }
  | none => s

/-- Adds to the counts of error handling. -/
def addRisk (s : Survey) (risk guarded checks : Nat) : Survey :=
  { s with errors :=
    ⟨s.errors.risk + risk, s.errors.guarded + guarded, s.errors.checks + checks⟩ }

/-- Records a symbol. It is public unless its name starts with an underscore. -/
def symbol (s : Survey) (casings : List Casing) (name : String) (documented : Bool) : Survey :=
  let s := { s with names := s.names ++ [(casings, name)] }
  if name.toList.head? == some '_' then s
  else
    { s with
      publicSymbols := s.publicSymbols + 1
      documentedSymbols := s.documentedSymbols + if documented then 1 else 0 }

/-- Records a function. -/
def addFunction (s : Survey) (scope : Scope) (name : String) (params : Nat) (documented : Bool)
    (span : Span) : Survey :=
  let s := s.symbol [.snake] name documented
  { s with
    functions := s.functions ++ [{ name, line := span.line, lines := span.lines, params }]
    classes :=
      match scope.classLike with
      | some index => s.classes.modify index fun c => { c with methods := c.methods + 1 }
      | none => s.classes
    testFunctions := s.testFunctions + if startsWith name.toList "test" then 1 else 0 }

/-- Records a class. -/
def addClass (s : Survey) (name : String) (documented : Bool) (span : Span) : Survey :=
  let s := s.symbol [.pascal] name documented
  { s with classes := s.classes ++ [{ name, line := span.line, lines := span.lines }] }

/-- Records a call. -/
def addCall (s : Survey) (scope : Scope) (callee arguments : List Char) : Survey :=
  let risk := if riskyCall.isMatch callee then 1 else 0
  let s := s.addRisk risk (if scope.guarded then risk else 0)
    (if callee = "isinstance".toList then 1 else 0)
  let s := { s with assertions := s.assertions + if assertingCall.isMatch callee then 1 else 0 }
  let s :=
    if 0 < scope.loops && ioCall.isMatch callee then
      s.charge scope fun f => { f with ioInLoop := f.ioInLoop + 1 }
    else s
  match dangerOf? callee arguments with
  | some kind => { s with security := s.security.add kind 1 }
  | none => s

/-- Records a node. -/
def visit (s : Survey) (scope : Scope) : Construct → Survey
  | .function name params documented span => s.addFunction scope name params documented span
  | .classLike name documented span => s.addClass name documented span
  | .control kind =>
    s.charge scope fun f =>
      { f with
        branches := f.branches + if kind = .other then 0 else 1
        maxNesting := max f.maxNesting (scope.nesting + 1)
        maxLoopDepth := max f.maxLoopDepth (scope.loops + if kind = .loop then 1 else 0) }
  | .branch => s.charge scope fun f => { f with branches := f.branches + 1 }
  | .exit raising =>
    let s := if raising then s.addRisk 0 0 1 else s
    if 0 < scope.nesting then
      s.charge scope fun f => { f with earlyReturns := f.earlyReturns + 1 }
    else s
  | .assertion => { s.addRisk 0 0 1 with assertions := s.assertions + 1 }
  | .comparison text => if noneCheck.isMatch text then s.addRisk 0 0 1 else s
  | .call callee arguments => s.addCall scope callee arguments
  | .augment addsString =>
    if addsString && 0 < scope.loops then
      s.charge scope fun f => { f with concatInLoop := f.concatInLoop + 1 }
    else s
  | .binding names => { s with bindings := s.bindings ++ names }
  | .imports targets => { s with imports := s.imports ++ targets }

end Survey

/-- The scope of the nodes inside a construct; `s` is what was counted before it. -/
def Scope.inside (scope : Scope) (s : Survey) : Construct → Scope
  | .function .. => { function := some s.functions.length }
  | .classLike .. => { classLike := some s.classes.length }
  | .control kind =>
    { scope with
      nesting := scope.nesting + 1
      loops := scope.loops + if kind = .loop then 1 else 0 }
  | _ => scope

/-- Records a node, and says in which scope the nodes inside it are seen. -/
def Survey.step (s : Survey) (scope : Scope) (tree : SyntaxTree) : Survey × Scope :=
  match tree.construct? with
  | some construct => (s.visit scope construct, scope.inside s construct)
  | none => (s, scope)

/-! ## The walk -/

/-- Some nodes, each with the scope it is seen in. With `handling`, failures are handled in the
first node that is the body of the node around it. -/
def seenIn (scope : Scope) : Bool → List SyntaxTree → List (SyntaxTree × Scope)
  | _, [] => []
  | handling, child :: rest =>
    if handling && child.field = some .body then
      (child, { scope with guarded := true }) :: seenIn scope false rest
    else (child, scope) :: seenIn scope handling rest

/-- The nodes inside a node, each with the scope it is seen in. -/
def SyntaxTree.insides (tree : SyntaxTree) (scope : Scope) : List (SyntaxTree × Scope) :=
  seenIn scope (tree.kind = .tryStatement) tree.children

theorem map_fst_seenIn (scope : Scope) (handling : Bool) (children : List SyntaxTree) :
    (seenIn scope handling children).map (·.1) = children := by
  induction children generalizing handling with
  | nil => rfl
  | cons child rest ih =>
    rw [seenIn]
    split <;> simp [ih]

theorem exists_guarded_of_mem_seenIn {scope : Scope} {handling : Bool}
    {children : List SyntaxTree} {entry : SyntaxTree × Scope}
    (h : entry ∈ seenIn scope handling children) : ∃ guarded, entry.2 = { scope with guarded } := by
  induction children generalizing handling with
  | nil => exact absurd h List.not_mem_nil
  | cons child rest ih =>
    rw [seenIn] at h
    split at h
    · rcases List.mem_cons.mp h with rfl | hrest
      · exact ⟨true, rfl⟩
      · exact ih hrest
    · rcases List.mem_cons.mp h with rfl | hrest
      · exact ⟨scope.guarded, rfl⟩
      · exact ih hrest

/-- Puts entries on a stack, the last of them first. -/
def push {α : Type} (entries stack : List α) : List α :=
  entries.reverse.foldl (fun stack entry => entry :: stack) stack

theorem push_eq {α : Type} (entries stack : List α) : push entries stack = entries ++ stack := by
  rw [push, List.foldl_reverse]
  induction entries with
  | nil => rfl
  | cons entry rest ih => simp [ih]

/-- The number of nodes of the trees on a stack. -/
def stackSize (stack : List (SyntaxTree × Scope)) : Nat :=
  SyntaxTree.sizeAll (stack.map (·.1))

theorem stackSize_push (tree : SyntaxTree) (scope inner : Scope)
    (stack : List (SyntaxTree × Scope)) :
    stackSize (push (tree.insides inner) stack) < stackSize ((tree, scope) :: stack) := by
  cases tree with
  | mk label children =>
    rw [push_eq, stackSize, List.map_append, SyntaxTree.insides, map_fst_seenIn,
      SyntaxTree.sizeAll_append, stackSize, List.map_cons, SyntaxTree.sizeAll, SyntaxTree.size,
      SyntaxTree.children]
    omega

/-- Takes the nodes off a stack, each with the scope it is seen in, until the stack is empty.
`visit` records a node and says in which scope the nodes inside it are seen. -/
def walk {α : Type} (visit : α → Scope → SyntaxTree → α × Scope) (a : α) :
    List (SyntaxTree × Scope) → α
  | [] => a
  | (tree, scope) :: stack =>
    walk visit (visit a scope tree).1 (push (tree.insides (visit a scope tree).2) stack)
termination_by stack => stackSize stack
decreasing_by exact stackSize_push tree scope _ stack

/-- What is counted in a program. -/
def survey (root : SyntaxTree) : Survey := walk Survey.step {} [(root, {})]

/-! ## Facts -/

namespace Survey

/-- The names held against their conventions. A variable that is called like a keyword is left out.
-/
def naming (s : Survey) : NamingFacts :=
  let declared := s.names.foldl (fun naming (casings, name) =>
    naming.record casings name.toList) {}
  let bindings := (Table.tally s.bindings).keys.filter fun name =>
    !Rules.python.keywords.contains name
  bindings.foldl (fun naming name =>
    naming.record [.snake, .screamingSnake] name.toList) declared

end Survey

/-- The facts about a file whose text has the given tree. -/
def treeFacts (file : SourceFile) (rows : List Row) (root : SyntaxTree) : FileFacts :=
  let s := survey root
  { path := file.key
    language := file.language
    lines := .ofRows rows
    naming := s.naming
    docs :=
      { publicSymbols := s.publicSymbols
        documentedSymbols := s.documentedSymbols
        moduleDoc := root.opensWithDocstring }
    functions := s.functions
    classes := s.classes
    errors := s.errors
    tests :=
      { isTestFile := Rules.python.testPath.isMatch file.key.toList
        testFunctions := s.testFunctions
        assertions := s.assertions }
    security := s.security.addAll (dangerousConstructs Danger.common rows)
    style := .ofRows file.text rows
    imports := s.imports
    markers := Table.tally (markers rows)
    patterns := designPatterns s.functions s.classes (codeText rows)
    magicNumbers := magicNumberCount rows
    fingerprints := fingerprints rows }

/-- The facts about a file. If the grammar does not accept its text, they are found by the pattern
rules. -/
def facts [Grammar] (file : SourceFile) : FileFacts :=
  let rows := Rules.python.rowsOf file
  match Grammar.parse? file.text with
  | some root => treeFacts file rows root
  | none => { Rules.python.extractRows file rows with fallback := true }

end Affinity.Python
