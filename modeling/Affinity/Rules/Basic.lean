import Affinity.Comment.Scan
import Affinity.Identifier
import Affinity.Language
import Affinity.Pattern

/-!
# Rules of a language

`Rules` describes by patterns how a language declares functions, classes and variables, branches,
handles errors, writes tests and so on. Patterns are matched against one line of code without its
comments and without the contents of its strings, unless their description says otherwise.
-/

namespace Affinity

/-- How a language delimits blocks. -/
inductive BlockStyle where
  /-- By braces. -/
  | braces
  /-- By a word that opens and a word that closes. -/
  | keywords
  /-- By a colon and deeper indentation. -/
  | indentation
  /-- There are no blocks. -/
  | flat
  deriving DecidableEq, Repr

/-- How a language tells the symbols that others may use. -/
inductive Visibility where
  /-- The line of the declaration matches. -/
  | marked (marker : Pattern)
  /-- The name starts with neither an underscore nor a hash sign, and the line does not match. -/
  | unmarked (hidden : Pattern)
  /-- The name starts with an uppercase letter. -/
  | capitalized
  deriving Repr

/-- Where the documentation of a symbol stands. -/
inductive DocPosition where
  | before
  | after
  deriving DecidableEq, Repr

/-- A kind of dangerous construct. -/
structure Danger where
  kind : String
  pattern : Pattern
  /-- The pattern is matched against the line as it was written. -/
  raw : Bool := false
  deriving Repr

/-- The rules of a language. -/
structure Rules where
  language : Language
  comments : CommentStyle
  blocks : BlockStyle
  /-- Declarations of functions: group `name`, and perhaps `params` and `receiver`. -/
  functions : List Pattern := []
  /-- Declarations of classes and the like: group `name`. -/
  classes : List Pattern := []
  /-- Declarations of variables: group `name`, which may hold several names separated by blanks or
  commas. -/
  variablePatterns : List Pattern := []
  functionCasings : List Casing := []
  classCasings : List Casing := []
  variableCasings : List Casing := []
  visibility : Visibility := .unmarked .never
  docPosition : DocPosition := .before
  /-- A plain comment next to a symbol is its documentation. -/
  commentsDocument : Bool := false
  /-- Words that name no function. -/
  keywords : List String := []
  /-- Constructs that branch or loop. -/
  branch : Pattern := .never
  /-- Lines whose block is a control block. -/
  control : Pattern := .never
  /-- Lines whose block is a loop. -/
  loops : Pattern := .never
  /-- Returns and raised errors. -/
  exits : Pattern := .never
  /-- Lines whose block handles the failures inside it. -/
  guard : Pattern := .never
  /-- Calls that can fail. -/
  risk : Pattern := .never
  /-- Explicit checks. -/
  checks : Pattern := .never
  /-- Paths of test files. -/
  testPath : Pattern := .never
  testFunction : Pattern := .never
  /-- Assertions; matched against all code of a file at once. -/
  assertion : Pattern := .never
  dangers : List Danger := []
  /-- Input and output. -/
  io : Pattern := .never
  /-- Texts put together piece by piece. -/
  concat : Pattern := .never
  /-- Imports: group `target`; matched against lines as they were written. -/
  imports : List Pattern := []
  /-- Lines that open a block by a word. -/
  openers : Pattern := .never
  /-- Lines that close a block by a word. -/
  closers : Pattern := .never
  deriving Repr

namespace Rules

/-- The word is one of the language itself. -/
def isKeyword (rules : Rules) (word : List Char) : Bool :=
  rules.keywords.contains (String.ofList word)

end Rules

/-- Credentials written into the program. -/
def Danger.secret : Danger where
  kind := "hardcoded_secret"
  pattern := .ofString
    r#"(?i)\b[\w$]*(?:password|passwd|secret|api_?key|access_?token|private_?key)\w*["']?\s*(?:=|:|=>)\s*["'][^"'\s]{4,}["']"#
  raw := true

/-- Queries put together from pieces of text. -/
def Danger.query : Danger where
  kind := "sql_injection"
  pattern := .ofString
    r#"(?i)(?:["'][^"']*\b(?:select\s.+\sfrom|insert\s+into|update\s+\w+\s+set|delete\s+from)\b[^"']*["']\s*(?:\+|\.|%|\.format\b))|(?:\bf["'][^"']*\b(?:select|insert|update|delete)\b[^"']*\x7b)|(?:\$\x7b[^\x7d]+\x7d[^`]*\b(?:from|where)\b)|(?:`[^`]*\b(?:select|insert|update|delete)\b[^`]*\$\x7b)"#
  raw := true

/-- The dangers of every programming language. -/
def Danger.common : List Danger := [.secret, .query]

/-- A danger looked for in the code. -/
def Danger.code (kind pattern : String) : Danger := { kind, pattern := .ofString pattern }

/-- A danger looked for in the line as it was written. -/
def Danger.written (kind pattern : String) : Danger :=
  { kind, pattern := .ofString pattern, raw := true }

end Affinity
