import Affinity.Python.Expression
import Affinity.Python.Lexer

/-!
# Statements and programs

`parse?` reads the syntax tree of a program; it gives nothing if there is something wrong with the
text. Statements of older versions of the language are read as well, such as `print` without
parentheses.

A definition reaches from its first word, decorators apart, to the last line of its body. A body on
lines of its own reaches to the last comment that belongs to it. Nodes without anything inside that
is counted may be left out, such as comments and patterns of `case`.
-/

namespace Affinity.Python

open Reader

namespace SyntaxTree

/-- The node with the sign by which it computes. -/
def withOperator (tree : SyntaxTree) (sign : String) : SyntaxTree :=
  mk { tree.label with operator := sign.toList } tree.children

/-- The node, reaching at least to a line. -/
def reaching (tree : SyntaxTree) (row : Nat) : SyntaxTree :=
  mk { tree.label with span := ⟨tree.span.first, max tree.span.last row⟩ } tree.children

end SyntaxTree

/-! ## Simple statements -/

/-- Signs of assignments that compute. -/
def augmentedSigns : List String :=
  ["+=", "-=", "*=", "/=", "//=", "%=", "@=", "&=", "|=", "^=", ">>=", "<<=", "**="]

/-- A name with dots. -/
def dottedName : Reader SyntaxTree := do
  let first ← get
  let _ ← identifier
  loop () fun _ => do
    if ← acceptSign "." then
      let _ ← kind .name
      return some ()
    else return none
  node .other first

/-- A simple statement ends here. -/
def atLineEnd : Reader Bool := do
  let token ← peek
  return token.kind == .newline || token.isSign ";"

/-- A name that is imported, and the name that it is given. -/
def importedName : Reader SyntaxTree := do
  let first ← get
  let target ← dottedName
  if ← acceptWord "as" then
    let given ← identifier
    return (← node .aliasedImport first [target.inField .name, given]).inField .name
  return target.inField .name

/-- The rest of `import`. -/
def importStatement (first : Nat) : Reader SyntaxTree := do
  let (targets, _) ← commas atLineEnd importedName
  if targets.isEmpty then failure
  node .importStatement first targets

/-- The names after `import` in a statement that begins with `from`. -/
def importedNames : Reader (List SyntaxTree) := do
  if ← acceptSign "*" then return []
  let enclosed ← acceptSign "("
  let (names, _) ← commas (if enclosed then atSign ")" else atLineEnd) importedName
  if names.isEmpty then failure
  if enclosed then sign ")"
  return names

/-- The rest of `from`. What comes from the future is no import. -/
def importFromStatement (first : Nat) : Reader SyntaxTree := do
  let opening ← get
  let dots ← manyWhile (return (← peek).isSign "." || (← peek).isSign "...") next
  if dots.isEmpty || !(← atWord "import") then
    let _ ← dottedName
  let module ← node .other opening
  word "import"
  let names ← importedNames
  let kind := if module.text = "__future__".toList then .other else .importFromStatement
  node kind first (module.inField .moduleName :: names)

/-- A statement that is an expression, an assignment or an annotation. -/
def expressionStatement (n : Nat) : Reader SyntaxTree := do
  let first ← get
  let a ← value n
  if ← acceptSign ":" then
    if !a.isTarget then failure
    let annotation ← expression n
    let assigned ← if ← acceptSign "=" then pure [(← value n).inField .right] else pure []
    let assignment ← node .assignment first (a.toPattern.inField .left :: annotation :: assigned)
    return ← node .expressionStatement first [assignment]
  let operator ← peek
  if augmentedSigns.any operator.isSign then
    advance
    if !a.isTarget then failure
    let b ← value n
    let assignment ← node .augmentedAssignment first [a.toPattern.inField .left, b.inField .right]
    return ← node .expressionStatement first [assignment.withOperator operator.text]
  let (_, last, targets) ← loop (first, a, []) fun (index, last, targets) => do
    if ← acceptSign "=" then
      if !last.isTarget then failure
      let next ← get
      return some (next, ← value n, (index, last.toPattern) :: targets)
    else return none
  -- an assignment stands on the right of the one before it
  let assigned ← targets.foldlM (fun right (index, target) =>
    node .assignment index [target.inField .left, right.inField .right]) last
  node .expressionStatement first
    (if assigned.kind = .expressionList then assigned.children else [assigned])

/-- An optional list of expressions. -/
def optionalList (n : Nat) : Reader (List SyntaxTree) := do
  if (← peek).beginsExpression then return [← expressionList n] else return []

/-- The rest of `raise`. -/
def raiseStatement (n first : Nat) : Reader SyntaxTree := do
  let a ← optionalList n
  let cause ← if ← acceptWord "from" then pure [← expression n] else pure []
  node .raiseStatement first (a ++ cause)

/-- The rest of `assert`. -/
def assertStatement (n first : Nat) : Reader SyntaxTree := do
  let a ← expression n
  let message ← if ← acceptSign "," then pure [← expression n] else pure []
  node .assertStatement first (a :: message)

/-- Parameters of types in brackets, if they come next. -/
def typeParameters : Reader Unit := do
  if ← acceptSign "[" then skipBalanced "]"

/-- A statement that gives a name to a type; fails if the next one is none. -/
def typeStatement (n : Nat) : Reader SyntaxTree := do
  let first ← get
  word "type"
  let name ← identifier
  typeParameters
  sign "="
  node .other first [name, ← expression n]

/-- `print` as a statement. A stream to print to may stand first, behind two signs. -/
def printStatement (n : Nat) : Reader SyntaxTree := do
  let first ← get
  word "print"
  let _ ← acceptSign ">>"
  let (items, _) ← commas atLineEnd (expression n)
  if items.isEmpty then failure
  node .other first items

/-- `exec` as a statement. The tables of names to use may follow. -/
def execStatement (n : Nat) : Reader SyntaxTree := do
  let first ← get
  word "exec"
  let code ← get
  let program ←
    if (← peek).kind == .string then
      advance
      node .string code
    else identifier
  let tables ←
    if ← acceptWord "in" then pure (← commas atLineEnd (expression n)).1 else pure []
  node .other first (program :: tables)

/-- A reader that has to take the whole simple statement. -/
def whole (r : Reader SyntaxTree) : Reader SyntaxTree := do
  let tree ← r
  if ← atLineEnd then return tree else failure

/-- A statement without a body. -/
def simpleStatement (n : Nat) : Reader SyntaxTree := do
  let first ← get
  let token ← peek
  if token.kind != .name then expressionStatement n
  else
    match token.text with
    | "pass" | "break" | "continue" =>
      advance
      node .other first
    | "return" =>
      advance
      node .returnStatement first (← optionalList n)
    | "raise" =>
      advance
      raiseStatement n first
    | "global" | "nonlocal" =>
      advance
      let (names, _) ← commas atLineEnd identifier
      if names.isEmpty then failure
      node .other first names
    | "del" =>
      advance
      node .other first [← expressionList n]
    | "assert" =>
      advance
      assertStatement n first
    | "import" =>
      advance
      importStatement first
    | "from" =>
      advance
      importFromStatement first
    | "type" => typeStatement n <|> expressionStatement n
    | "print" => whole (expressionStatement n) <|> printStatement n
    | "exec" => whole (expressionStatement n) <|> execStatement n
    | _ => expressionStatement n

/-- The simple statements of a line and its end. -/
def simpleLine (n : Nat) : Reader (List SyntaxTree) := do
  let first ← simpleStatement n
  let others ← loop [] fun others => do
    if ← acceptSign ";" then
      if (← peek).kind == .newline then return none
      return some ((← simpleStatement n) :: others)
    else return none
  let _ ← Reader.kind .newline
  return first :: others.reverse

/-! ## Signatures -/

/-- A parameter or a sign that divides the list, and the comment before it. -/
def parameter (n : Nat) : Reader (List SyntaxTree) := do
  let first ← get
  let token ← peek
  let after ← peekAt 1
  let comments := if token.commented then [.mk { kind := .comment } []] else []
  if ← acceptSign "/" then return comments ++ [← node .positionalSeparator first]
  if token.isSign "*" && (after.isSign "," || after.isSign ")") then
    advance
    return comments ++ [← node .keywordSeparator first]
  let isStarred ← accept fun t => t.isSign "*" || t.isSign "**"
  let name ← parameterName n
  let annotation ← if ← acceptSign ":" then pure [← starred n] else pure []
  let standard ← if ← acceptSign "=" then pure [← expression n] else pure []
  let rest := annotation ++ standard
  let param ←
    if isStarred || !rest.isEmpty then node .other first (name :: rest) else pure name
  return comments ++ [param]

/-- The parameters of a function in their parentheses. -/
def parameterList (n : Nat) : Reader SyntaxTree := do
  let first ← get
  sign "("
  let (items, _) ← commas (atSign ")") (parameter n)
  sign ")"
  node .other first items.flatten

/-! ## Compound statements -/

/-- A resource of a `with` statement, and the place behind `as` that it is assigned to. -/
def resource (n : Nat) : Reader SyntaxTree := do
  let first ← get
  let a ← expression n
  if ← acceptWord "as" then
    let target ← operand n
    if !target.isTarget then failure
    return ← node .other first [a, target.toPattern]
  return a

/-- The resources of a `with` statement, in parentheses or not. -/
def resources (n : Nat) : Reader (List SyntaxTree) := do
  let plain : Reader (List SyntaxTree) := do
    let (items, _) ← commas (atSign ":") (resource n)
    if items.isEmpty || !(← atSign ":") then failure
    return items
  let enclosed : Reader (List SyntaxTree) := do
    sign "("
    let (items, _) ← commas (atSign ")") (resource n)
    sign ")"
    if items.isEmpty || !(← atSign ":") then failure
    return items
  plain <|> enclosed

/-- The pattern of a `case` clause, which ends before a guard or a colon. -/
def casePattern : Reader Unit := do
  let first ← get
  let _ ← loop 0 fun depth => do
    let token ← peek
    if token.kind == .finish || token.kind == .newline then failure
    else if depth = 0 && (token.isSign ":" || token.isWord "if") then return none
    else
      advance
      if ["(", "[", "\x7b"].any token.isSign then return some (depth + 1)
      else if [")", "]", "\x7d"].any token.isSign then
        if depth = 0 then failure else return some (depth - 1)
      else return some depth
  if (← get) = first then failure

mutual

/-- A compound statement, or the simple statements of a line. -/
def statement : Nat → Reader (List SyntaxTree)
  | 0 => failure
  | n + 1 => do
    let token ← peek
    let compound (r : Reader SyntaxTree) : Reader (List SyntaxTree) := return [← r]
    if token.isSign "@" then compound (decorated n)
    else if token.kind != .name then simpleLine n
    else
      match token.text with
      | "if" => compound (ifStatement n)
      | "for" => compound (forStatement n)
      | "while" => compound (whileStatement n)
      | "try" => compound (tryStatement n)
      | "with" => compound (withStatement n)
      | "def" => compound (functionDefinition n)
      | "class" => compound (classDefinition n)
      | "async" =>
        let after ← peekAt 1
        if after.isWord "def" then compound (functionDefinition n)
        else if after.isWord "for" then compound (forStatement n)
        else if after.isWord "with" then compound (withStatement n)
        else simpleLine n
      | "match" => compound (matchStatement n) <|> simpleLine n
      | _ => simpleLine n

/-- A colon and the statements that it introduces. -/
def block : Nat → Reader SyntaxTree
  | 0 => failure
  | n + 1 => do
    sign ":"
    if ← accept (·.kind == .newline) then
      let _ ← kind .indent
      let first ← get
      let statements ← manyWhile (return (← peek).kind != .dedent) (statement n)
      let stop ← kind .dedent
      return (← node .other first statements.flatten).reaching stop.row
    else
      let first ← get
      let statements ← simpleLine n
      node .other first statements

/-- Decorators and the definition after them. -/
def decorated : Nat → Reader SyntaxTree
  | 0 => failure
  | n + 1 => do
    let first ← get
    let decorators ← manyWhile (atSign "@") do
      let first ← get
      sign "@"
      let a ← expression n
      let _ ← kind .newline
      node .other first [a]
    let definition ← if ← atWord "class" then classDefinition n else functionDefinition n
    node .other first (decorators ++ [definition])

/-- The definition of a function. -/
def functionDefinition : Nat → Reader SyntaxTree
  | 0 => failure
  | n + 1 => do
    let first ← get
    let _ ← acceptWord "async"
    word "def"
    let name ← identifier
    typeParameters
    let params ← parameterList n
    let result ← if ← acceptSign "->" then pure [← expression n] else pure []
    let body ← block n
    node .functionDefinition first
      (name.inField .name :: params.inField .parameters :: result ++ [body.inField .body])

/-- The definition of a class. -/
def classDefinition : Nat → Reader SyntaxTree
  | 0 => failure
  | n + 1 => do
    let first ← get
    word "class"
    let name ← identifier
    typeParameters
    let bases ← if ← acceptSign "(" then callArguments n else pure []
    let body ← block n
    node .classDefinition first (name.inField .name :: bases ++ [body.inField .body])

/-- `else` and its body, if it comes next. -/
def elseClause : Nat → Reader (List SyntaxTree)
  | 0 => failure
  | n + 1 => do
    if ← acceptWord "else" then return [← block n] else return []

/-- `if` with its further clauses. -/
def ifStatement : Nat → Reader SyntaxTree
  | 0 => failure
  | n + 1 => do
    let first ← get
    word "if"
    let condition ← expression n
    let body ← block n
    let clauses ← manyWhile (atWord "elif") do
      let first ← get
      word "elif"
      let condition ← expression n
      let body ← block n
      node .elifClause first [condition, body]
    let otherwise ← elseClause n
    node .ifStatement first (condition :: body :: clauses ++ otherwise)

/-- `while`. -/
def whileStatement : Nat → Reader SyntaxTree
  | 0 => failure
  | n + 1 => do
    let first ← get
    word "while"
    let condition ← expression n
    let body ← block n
    let otherwise ← elseClause n
    node .whileStatement first (condition :: body.inField .body :: otherwise)

/-- `for`, perhaps with `async` in front. -/
def forStatement : Nat → Reader SyntaxTree
  | 0 => failure
  | n + 1 => do
    let first ← get
    let _ ← acceptWord "async"
    word "for"
    let targets ← targetList n
    word "in"
    let items ← expressionList n
    let body ← block n
    let otherwise ← elseClause n
    node .forStatement first
      (targets.inField .left :: items.inField .right :: body.inField .body :: otherwise)

/-- A clause of `try` that handles failures. -/
def exceptClause : Nat → Reader SyntaxTree
  | 0 => failure
  | n + 1 => do
    let first ← get
    word "except"
    let isGroup ← acceptSign "*"
    let caught ←
      if ← atSign ":" then pure []
      else
        let a ← expression n
        if ← accept fun t => t.isWord "as" || t.isSign "," then pure [a, ← expression n]
        else pure [a]
    let body ← block n
    node (if isGroup then .other else .exceptClause) first (caught ++ [body])

/-- `try` with its clauses. -/
def tryStatement : Nat → Reader SyntaxTree
  | 0 => failure
  | n + 1 => do
    let first ← get
    word "try"
    let body ← block n
    let clauses ← manyWhile (atWord "except") (exceptClause n)
    let otherwise ← elseClause n
    let last ← if ← acceptWord "finally" then pure [← block n] else pure []
    if clauses.isEmpty && last.isEmpty then failure
    node .tryStatement first (body.inField .body :: clauses ++ otherwise ++ last)

/-- `with`, perhaps with `async` in front. -/
def withStatement : Nat → Reader SyntaxTree
  | 0 => failure
  | n + 1 => do
    let first ← get
    let _ ← acceptWord "async"
    word "with"
    let items ← resources n
    let body ← block n
    node .withStatement first (items ++ [body.inField .body])

/-- `match` with its clauses. -/
def matchStatement : Nat → Reader SyntaxTree
  | 0 => failure
  | n + 1 => do
    let first ← get
    word "match"
    let subject ← expressionList n
    sign ":"
    let _ ← kind .newline
    let _ ← kind .indent
    let clauses ← manyWhile (atWord "case") (caseClause n)
    if clauses.isEmpty then failure
    let _ ← kind .dedent
    node .matchStatement first (subject :: clauses)

/-- A clause of `match`. -/
def caseClause : Nat → Reader SyntaxTree
  | 0 => failure
  | n + 1 => do
    let first ← get
    word "case"
    casePattern
    let opening ← get
    let guard ←
      if ← acceptWord "if" then pure [← node .ifClause opening [← expression n]] else pure []
    let body ← block n
    node .caseClause first (guard ++ [body])

end

/-! ## Programs -/

/-- All statements of a program. -/
def program (n : Nat) : Reader SyntaxTree := do
  let statements ← manyWhile (return (← peek).kind != .finish) (statement n)
  node .other 0 statements.flatten

/-- The syntax tree of a text. -/
def parse? (content : List Char) : Option SyntaxTree :=
  let text := content.toArray
  match tokens? text with
  | none => none
  | some tokens =>
    let source : Source := { text, tokens := tokens.toArray }
    (((program (32 * (text.size + 2))).run 0).run source).map (·.1)

/-- The grammar by which the program reads files. -/
instance : Grammar := ⟨parse?⟩

end Affinity.Python
