import Affinity.Python.Reader

/-!
# Expressions

The readers of this module take an expression and give its syntax tree. Where an assignment follows,
`SyntaxTree.toPattern` turns the tree of an expression into that of what is assigned to.

Operators of arithmetic are read at one level, with all their operands in one node. Each of the
mutually recursive readers takes a bound on the depth of the expression.
-/

namespace Affinity.Python

namespace SyntaxTree

mutual

/-- The expression can be assigned to. -/
def isTarget : SyntaxTree → Bool
  | mk label children =>
    match label.kind with
    | .identifier | .attribute | .subscript => true
    | .listSplat | .expressionList | .tuple | .list | .parenthesizedExpression =>
      allTargets children
    | _ => false

/-- All of some expressions can be assigned to. -/
def allTargets : List SyntaxTree → Bool
  | [] => true
  | tree :: rest => tree.isTarget && allTargets rest

end

mutual

/-- What is assigned to, from the tree that it has as an expression. -/
def toPattern : SyntaxTree → SyntaxTree
  | mk label children =>
    match label.kind with
    | .expressionList => mk { label with kind := .patternList } (toPatterns children)
    | .tuple | .parenthesizedExpression =>
      mk { label with kind := .tuplePattern } (toPatterns children)
    | .list => mk { label with kind := .listPattern } (toPatterns children)
    | _ => mk label children

/-- Several parts of what is assigned to. -/
def toPatterns : List SyntaxTree → List SyntaxTree
  | [] => []
  | tree :: rest => tree.toPattern :: toPatterns rest

end

/-- The node, as the given thing to the node around it. -/
def inField (tree : SyntaxTree) (field : Field) : SyntaxTree :=
  mk { tree.label with field := some field } tree.children

end SyntaxTree

/-- Reserved words that may begin an expression. -/
def expressionWords : List String := ["False", "None", "True", "lambda", "not", "yield"]

/-- The token may begin an expression or a starred one. -/
def Token.beginsExpression (t : Token) : Bool :=
  match t.kind with
  | .name => t.isName || expressionWords.contains t.text
  | .number | .string => true
  | .sign => ["(", "[", "\x7b", "-", "+", "~", "*", "..."].contains t.text
  | _ => false

/-- The token may begin an operand of `await`. Behind anything else `await` is a name. -/
def Token.beginsPrimary (t : Token) : Bool :=
  t.beginsExpression && !(["-", "+", "~", "*"].contains t.text)

/-- Signs between two operands of arithmetic. -/
def arithmeticSigns : List String :=
  ["+", "-", "*", "/", "//", "%", "@", "**", "&", "|", "^", "<<", ">>"]

/-- Signs between two operands that are compared. -/
def comparisonSigns : List String := ["<", ">", "==", ">=", "<=", "!=", "<>"]

open Reader

/-- Takes the operator of a comparison, if there is one. -/
def comparisonOperator : Reader Bool := do
  let token ← peek
  if comparisonSigns.any token.isSign || token.isWord "in" then
    advance
    return true
  else if token.isWord "not" then
    if (← peekAt 1).isWord "in" then
      advance
      advance
      return true
    else return false
  else if token.isWord "is" then
    advance
    let _ ← acceptWord "not"
    return true
  else return false

mutual

/-- One expression. -/
def expression : Nat → Reader SyntaxTree
  | 0 => failure
  | n + 1 => do
    let first ← get
    if ← acceptWord "lambda" then
      let params ← lambdaParams n
      let body ← expression n
      return ← node .other first (params ++ [body])
    let a ← disjunction n
    if a.kind = .identifier && (← acceptSign ":=") then
      let b ← expression n
      return ← node .other first [a, b]
    if ← acceptWord "if" then
      let condition ← disjunction n
      word "else"
      let b ← expression n
      return ← node .conditionalExpression first [a, condition, b]
    return a

/-- The parameters of an anonymous function and the colon after them. -/
def lambdaParams : Nat → Reader (List SyntaxTree)
  | 0 => failure
  | n + 1 => do
    let (items, _) ← commas (atSign ":") do
      let first ← get
      if ← acceptSign "/" then return ← node .positionalSeparator first
      if (← acceptSign "*") && (← atSign ",") then return ← node .keywordSeparator first
      let _ ← acceptSign "**"
      let param ← parameterName n
      if ← acceptSign "=" then return ← node .other first [param, ← expression n]
      return param
    sign ":"
    return items

/-- The name of a parameter, or names in parentheses for the parts of one. -/
def parameterName : Nat → Reader SyntaxTree
  | 0 => failure
  | n + 1 => do
    if ← atSign "(" then
      let a ← atom n
      if !a.isTarget then failure
      return a.toPattern
    identifier

/-- Operands of `or`. -/
def disjunction : Nat → Reader SyntaxTree
  | 0 => failure
  | n + 1 => do
    let first ← get
    let a ← conjunction n
    loop a fun a => do
      if ← acceptWord "or" then return some (← node .booleanOperator first [a, ← conjunction n])
      else return none

/-- Operands of `and`. -/
def conjunction : Nat → Reader SyntaxTree
  | 0 => failure
  | n + 1 => do
    let first ← get
    let a ← inversion n
    loop a fun a => do
      if ← acceptWord "and" then return some (← node .booleanOperator first [a, ← inversion n])
      else return none

/-- A comparison, or its negation. -/
def inversion : Nat → Reader SyntaxTree
  | 0 => failure
  | n + 1 => do
    let first ← get
    if ← acceptWord "not" then return ← node .other first [← inversion n]
    comparison n

/-- A comparison of two or more operands, or a single operand. -/
def comparison : Nat → Reader SyntaxTree
  | 0 => failure
  | n + 1 => do
    let first ← get
    let a ← arithmetic n
    let operands ← loop [a] fun operands => do
      if ← comparisonOperator then return some ((← arithmetic n) :: operands) else return none
    match operands with
    | [_] => return a
    | _ => node .comparisonOperator first operands.reverse

/-- Operands with signs of arithmetic between them. -/
def arithmetic : Nat → Reader SyntaxTree
  | 0 => failure
  | n + 1 => do
    let first ← get
    let a ← operand n
    let operands ← loop [a] fun operands => do
      if ← accept fun t => arithmeticSigns.any t.isSign then
        return some ((← operand n) :: operands)
      else return none
    match operands with
    | [_] => return a
    | _ => node .other first operands.reverse

/-- An operand with the signs in front of it. -/
def operand : Nat → Reader SyntaxTree
  | 0 => failure
  | n + 1 => do
    let first ← get
    if ← accept fun t => t.isSign "+" || t.isSign "-" || t.isSign "~" then
      return ← node .other first [← operand n]
    if (← atWord "await") && (← peekAt 1).beginsPrimary then
      advance
      return ← node .other first [← primary n]
    primary n

/-- An atom with the attributes, calls and items taken of it. -/
def primary : Nat → Reader SyntaxTree
  | 0 => failure
  | n + 1 => do
    let first ← get
    let a ← atom n
    loop a fun a => do
      if ← acceptSign "." then
        let _ ← kind .name
        return some (← node .attribute first [a])
      else if ← atSign "(" then
        let opening ← get
        advance
        let arguments ← callArguments n
        let list ← node .other opening arguments
        return some (← node .call first [a.inField .function, list.inField .arguments])
      else if ← acceptSign "[" then
        let (items, _) ← commas (atSign "]") (subscript n)
        sign "]"
        if items.isEmpty then failure
        return some (← node .subscript first (a :: items))
      else return none

/-- The arguments of a call and the closing parenthesis. -/
def callArguments : Nat → Reader (List SyntaxTree)
  | 0 => failure
  | n + 1 => do
    let (items, _) ← commas (atSign ")") do
      let first ← get
      if ← accept fun t => t.isSign "*" || t.isSign "**" then
        return [← node .listSplat first [← expression n]]
      if (← peek).isName && (← peekAt 1).isSign "=" then
        let keyword ← identifier
        advance
        return [← node .other first [keyword, ← expression n]]
      let a ← expression n
      return a :: (← comprehension n)
    sign ")"
    return items.flatten

/-- What may stand between the brackets of an item. -/
def subscript : Nat → Reader SyntaxTree
  | 0 => failure
  | n + 1 => do
    let first ← get
    if ← acceptSign "*" then return ← node .listSplat first [← expression n]
    let part : Reader (List SyntaxTree) := do
      if (← atSign ":") || (← atSign "]") || (← atSign ",") then return []
      return [← expression n]
    let a ← part
    if ← acceptSign ":" then
      let b ← part
      let c ← if ← acceptSign ":" then part else pure []
      return ← node .other first (a ++ b ++ c)
    match a with
    | [a] => return a
    | _ => failure

/-- The clauses of a comprehension; none if there is no comprehension. -/
def comprehension : Nat → Reader (List SyntaxTree)
  | 0 => failure
  | n + 1 => do
    let clauses ← loop [] fun clauses => do
      let first ← get
      let token ← peek
      let isLoop := token.isWord "for" || (token.isWord "async" && (← peekAt 1).isWord "for")
      if isLoop then
        let _ ← acceptWord "async"
        word "for"
        let targets ← targetList n
        word "in"
        let items ← disjunction n
        return some ((← node .forInClause first [targets, items]) :: clauses)
      else if token.isWord "if" && !clauses.isEmpty then
        advance
        return some ((← node .ifClause first [← disjunction n]) :: clauses)
      else return none
    return clauses.reverse

/-- What a loop assigns to. -/
def targetList : Nat → Reader SyntaxTree
  | 0 => failure
  | n + 1 => do
    let first ← get
    let (items, comma) ← commas (atWord "in") do
      let first ← get
      if ← acceptSign "*" then node .listSplat first [← arithmetic n] else arithmetic n
    let targets ←
      match items with
      | [] => failure
      | [a] => if comma then node .expressionList first [a] else pure a
      | _ => node .expressionList first items
    if !targets.isTarget then failure
    return targets.toPattern

/-- An expression or a starred one. -/
def starred : Nat → Reader SyntaxTree
  | 0 => failure
  | n + 1 => do
    let first ← get
    if ← acceptSign "*" then node .listSplat first [← arithmetic n] else expression n

/-- One or more expressions between commas. -/
def expressionList : Nat → Reader SyntaxTree
  | 0 => failure
  | n + 1 => do
    let first ← get
    let (items, comma) ← commas (return !(← peek).beginsExpression) (starred n)
    match items with
    | [] => failure
    | [a] => if comma then node .expressionList first [a] else return a
    | _ => node .expressionList first items

/-- `yield` and what follows it. -/
def yieldExpression : Nat → Reader SyntaxTree
  | 0 => failure
  | n + 1 => do
    let first ← get
    word "yield"
    if ← acceptWord "from" then return ← node .other first [← expression n]
    if (← peek).beginsExpression then return ← node .other first [← expressionList n]
    node .other first

/-- One or more expressions, or `yield`. -/
def value : Nat → Reader SyntaxTree
  | 0 => failure
  | n + 1 => do
    if ← atWord "yield" then yieldExpression n else expressionList n

/-- A name, a literal, or something in brackets. -/
def atom : Nat → Reader SyntaxTree
  | 0 => failure
  | n + 1 => do
    let first ← get
    let token ← peek
    match token.kind with
    | .number =>
      advance
      node .other first
    | .string =>
      let literals ← manyWhile (return (← peek).kind == .string) do
        let literal ← get
        let token ← next
        let fields ← token.inner.mapM (replacementField n)
        node .string literal fields
      match literals with
      | [literal] => return literal
      | _ => node .concatenatedString first literals
    | .name =>
      if token.isName then identifier
      else if ["None", "True", "False"].contains token.text then
        advance
        node .other first
      else failure
    | .sign =>
      advance
      if token.text == "..." then node .other first
      else if token.text == "(" then parenthesized n first
      else if token.text == "[" then display n first "]" .list .list
      else if token.text == "\x7b" then braced n first
      else failure
    | _ => failure

/-- The expression inside a formatted string. -/
def replacementField : Nat → List Token → Reader SyntaxTree
  | 0, _ => failure
  | n + 1, tokens => do
    let source ← read
    let body : Reader SyntaxTree := do
      let a ← value n
      let _ ← acceptSign "="
      let _ ← kind .finish
      return a
    match (body.run 0).run { source with tokens := tokens.toArray } with
    | some (a, _) => return a
    | none => failure

/-- The rest of something in parentheses. -/
def parenthesized : Nat → Nat → Reader SyntaxTree
  | 0, _ => failure
  | n + 1, first => do
    if ← atWord "yield" then
      let a ← yieldExpression n
      sign ")"
      node .other first [a]
    else display n first ")" .parenthesizedExpression .tuple

/-- The rest of expressions in parentheses or brackets, or of a comprehension. -/
def display : Nat → Nat → String → Kind → Kind → Reader SyntaxTree
  | 0, _, _, _, _ => failure
  | n + 1, first, closing, single, several => do
    let (items, comma) ← commas (atSign closing) do
      let a ← starred n
      let clauses ← comprehension n
      return (a, clauses)
    sign closing
    let isComprehension := items.any (!·.2.isEmpty)
    if comma && isComprehension then failure
    let kind :=
      if isComprehension then .other else if items.length = 1 && !comma then single else several
    node kind first (items.flatMap fun (a, clauses) => a :: clauses)

/-- The rest of a set or a dictionary. -/
def braced : Nat → Nat → Reader SyntaxTree
  | 0, _ => failure
  | n + 1, opening => do
    let (items, _) ← commas (atSign "\x7d") do
      let first ← get
      if ← acceptSign "**" then return [← node .other first [← expression n]]
      let a ← starred n
      let entry ← if ← acceptSign ":" then node .other first [a, ← expression n] else pure a
      return entry :: (← comprehension n)
    sign "\x7d"
    node .other opening items.flatten

end

end Affinity.Python
