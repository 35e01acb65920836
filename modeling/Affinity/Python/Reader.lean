import Affinity.Pattern
import Affinity.Python.Lexer
import Affinity.Python.Tree

/-!
# Readers of tokens

A `Reader` takes tokens from the front of a list and gives a value, or fails. The functions here are
the small readers of which the grammar of Python is made.
-/

namespace Affinity.Python

/-- A text and its tokens. -/
structure Source where
  text : Array Char
  tokens : Array Token

/-- A reader of tokens; the state is the index of the next token. -/
abbrev Reader := StateT Nat (ReaderT Source Option)

namespace Reader

/-- The next token, or the one `n` places further on. -/
def peekAt (n : Nat) : Reader Token := do
  return (← read).tokens.getD ((← get) + n) { kind := .finish }

/-- The next token. -/
def peek : Reader Token := peekAt 0

/-- Passes over the next token. -/
def advance : Reader Unit := modify (· + 1)

/-- Takes the next token. -/
def next : Reader Token := do
  let token ← peek
  advance
  return token

/-- The next token is the given sign. -/
def atSign (sign : String) : Reader Bool := return (← peek).isSign sign

/-- The next token is the given word. -/
def atWord (word : String) : Reader Bool := return (← peek).isWord word

/-- Takes the next token if it satisfies `p`. -/
def accept (p : Token → Bool) : Reader Bool := do
  if p (← peek) then
    advance
    return true
  else return false

/-- Takes the next token if it is the given sign. -/
def acceptSign (sign : String) : Reader Bool := accept (·.isSign sign)

/-- Takes the next token if it is the given word. -/
def acceptWord (word : String) : Reader Bool := accept (·.isWord word)

/-- Takes the next token, which has to satisfy `p`. -/
def require (p : Token → Bool) : Reader Token := do
  let token ← next
  if p token then return token else failure

/-- Takes the next token, which has to be the given sign. -/
def sign (s : String) : Reader Unit := do let _ ← require (·.isSign s)

/-- Takes the next token, which has to be the given word. -/
def word (s : String) : Reader Unit := do let _ ← require (·.isWord s)

/-- Takes the next token, which has to be of the given kind. -/
def kind (k : TokenKind) : Reader Token := require (·.kind == k)

/-- The last token before the one with index `n` that is written. -/
def writtenBefore (tokens : Array Token) : Nat → Token
  | 0 => { kind := .finish }
  | n + 1 =>
    let token := tokens.getD n { kind := .finish }
    if token.isWritten then token else writtenBefore tokens n

/-- A node over the tokens from the one with index `first` to the last token taken. It reaches to
the last line of the nodes inside it, if that comes later. -/
def node (kind : Kind) (first : Nat) (children : List SyntaxTree := []) : Reader SyntaxTree := do
  let source ← read
  let start := source.tokens.getD first { kind := .finish }
  let stop := writtenBefore source.tokens (← get)
  return .mk {
    kind
    text := sliceText source.text start.start stop.stop
    span := ⟨start.row, maxOf (stop.endRow :: children.map (·.span.last))⟩ } children

/-- A name. -/
def identifier : Reader SyntaxTree := do
  let first ← get
  let _ ← require Token.isName
  node .identifier first

/-- Repeats a step until it gives nothing, at most `n` times. -/
def iterate {α : Type} (step : α → Reader (Option α)) : Nat → α → Reader α
  | 0, a => return a
  | n + 1, a => do
    match ← step a with
    | some b => iterate step n b
    | none => return a

/-- Repeats a step until it gives nothing. -/
def loop {α : Type} (a : α) (step : α → Reader (Option α)) : Reader α := do
  iterate step ((← read).tokens.size + 1) a

/-- Items as long as `p` says that another one comes. -/
def manyWhile {α : Type} (p : Reader Bool) (item : Reader α) : Reader (List α) := do
  let items ← loop [] fun items => do
    if ← p then return some ((← item) :: items) else return none
  return items.reverse

/-- Items between commas, up to where `stop` holds. A comma may stand at the end. The second value
says whether there is a comma at all. -/
def commas {α : Type} (stop : Reader Bool) (item : Reader α) : Reader (List α × Bool) := do
  if ← stop then return ([], false)
  let first ← item
  let (items, comma, _) ← loop ([first], false, true) fun (items, comma, more) => do
    if !more then return none
    else if ← acceptSign "," then
      if ← stop then return some (items, true, false)
      else return some ((← item) :: items, true, true)
    else return some (items, comma, false)
  return (items.reverse, comma)

/-- Reads something up to a bracket at the same level that is closed by the given sign; what stands
between is passed over. -/
def skipBalanced (closing : String) : Reader Unit := do
  let _ ← loop (some 0) fun depth => do
    match depth with
    | none => return none
    | some depth =>
      let token ← peek
      if token.kind == .finish || token.kind == .newline then failure
      else if depth = 0 && token.isSign closing then
        advance
        return some none
      else
        advance
        if ["(", "[", "\x7b"].any token.isSign then return some (some (depth + 1))
        else if [")", "]", "\x7d"].any token.isSign then return some (some (depth - 1))
        else return some (some depth)

end Reader

end Affinity.Python
