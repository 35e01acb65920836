import Affinity.Text.Lines

/-!
# Code, comments and strings of a line

A line is scanned character by character. The scan is in one of the modes of `ScanMode`; a step
looks at what is left of the line and says which text the character contributes to the code and to
the comments, which mode follows, and how many of the next characters belong to the same delimiter.

* `CommentStyle` — the delimiters that a language uses.
* `openerAt` — the delimiter that opens at a place, in order of precedence.
* `scanStep` — one step.
* `scanRow` — a whole line: the mode in which it ends and what was found.

Contents of strings are dropped and their delimiters kept, so that words inside them count for
nothing; delimiters of block comments belong neither to the code nor to the comment.
-/

namespace Affinity

/-!
## How a language writes comments and strings

A `CommentStyle` lists the delimiters that a language uses. Where two of them could open at the same
place, the order of the lists and of the fields decides (see `openerAt`).
-/

/-- The delimiters of a block comment. -/
structure BlockDelimiters where
  opening : List Char
  closing : List Char
  deriving DecidableEq, Repr

/-- The delimiters of comments and strings in a language. -/
structure CommentStyle where
  /-- Openers of comments that run to the end of the line. -/
  line : List (List Char) := []
  /-- Openers of such comments that are documentation. -/
  docLine : List (List Char) := []
  block : List BlockDelimiters := []
  /-- Block comments that are documentation. -/
  docBlock : List BlockDelimiters := []
  /-- Quotes of strings that end with the line at the latest. -/
  quotes : List Char := []
  /-- Delimiters of strings that may run over several lines. -/
  multilineStrings : List (List Char) := []
  /-- A string over several lines that opens a statement is documentation. -/
  docstrings : Bool := false
  /-- Block comments open only where nothing but blanks stands before them. -/
  blockAtLineStart : Bool := false
  deriving DecidableEq, Repr

namespace CommentStyle

/-- The style with `//`, `/* */`, `///` and `/** */`. -/
def cLike : CommentStyle where
  line := ["//".toList]
  docLine := ["///".toList]
  block := [⟨"/*".toList, "*/".toList⟩]
  docBlock := [⟨"/**".toList, "*/".toList⟩]
  quotes := ['"', '\'']

end CommentStyle

/-! ## What a scan finds -/

/-- What a stretch of a line contributes. -/
structure Finding where
  code : List Char := []
  comment : List Char := []
  /-- Some of it is code, possibly inside a string. -/
  hasCode : Bool := false
  /-- Some of it is documentation. -/
  hasDoc : Bool := false
  /-- Some of it is a plain comment. -/
  hasComment : Bool := false
  deriving DecidableEq, Repr

namespace Finding

/-- The contribution of two stretches, one after the other. -/
def append (a b : Finding) : Finding where
  code := a.code ++ b.code
  comment := a.comment ++ b.comment
  hasCode := a.hasCode || b.hasCode
  hasDoc := a.hasDoc || b.hasDoc
  hasComment := a.hasComment || b.hasComment

instance : Append Finding := ⟨append⟩

/-- The mark of a comment, which is documentation or not. -/
def ofComment (doc : Bool) (text : List Char) : Finding where
  comment := text
  hasDoc := doc
  hasComment := !doc

/-- The mark of a string: documentation, or code of which only `delimiter` is kept. -/
def ofString (doc : Bool) (delimiter : List Char) : Finding where
  code := if doc then [] else delimiter
  hasCode := !doc
  hasDoc := doc

/-- A character of the code. -/
def ofChar (c : Char) : Finding where
  code := [c]
  hasCode := !isBlank c

end Finding

/-! ## Modes -/

/-- Where a scan is. -/
inductive ScanMode where
  | normal
  /-- Inside a comment that runs to the end of the line. -/
  | lineComment (doc : Bool)
  /-- Inside a comment up to `closing`. -/
  | block (closing : List Char) (doc : Bool)
  /-- Inside a string up to `delimiter`. -/
  | multiline (delimiter : List Char) (doc : Bool)
  /-- Inside a string up to the quote or the end of the line; `escaped` after a backslash. -/
  | quoted (quote : Char) (escaped : Bool)
  deriving DecidableEq, Repr

/-- The mode in which the next line begins. -/
def ScanMode.afterLine : ScanMode → ScanMode
  | .block closing doc => .block closing doc
  | .multiline delimiter doc => .multiline delimiter doc
  | _ => .normal

/-- The state of the scan of a line. -/
structure ScanState where
  mode : ScanMode := .normal
  /-- The code found so far on the line holds only blanks. -/
  codeBlank : Bool := true
  /-- Documentation was found on the line. -/
  docSeen : Bool := false
  deriving DecidableEq, Repr

/-- Records what was found. -/
def ScanState.note (s : ScanState) (found : Finding) : ScanState :=
  { s with
    codeBlank := s.codeBlank && allBlank found.code
    docSeen := s.docSeen || found.hasDoc }

/-! ## Openers -/

/-- What opens at a place of the code. -/
inductive Opener where
  | block (delimiters : BlockDelimiters) (doc : Bool)
  | line (doc : Bool)
  | multiline (delimiter : List Char)
  | quote (quote : Char)
  deriving DecidableEq, Repr

namespace CommentStyle

/-- The block comment that opens here. Documentation comes first, unless a slash follows its
opener: an empty plain comment looks like that. -/
def blockAt? (style : CommentStyle) (lineStart : Bool) (rest : List Char) : Option Opener :=
  if style.blockAtLineStart && !lineStart then none
  else
    let doc := style.docBlock.find? fun d =>
      d.opening.isPrefixOf rest && (rest.drop d.opening.length).head? != some '/'
    match doc with
    | some d => some (.block d true)
    | none => (style.block.find? fun d => d.opening.isPrefixOf rest).map (.block · false)

/-- The line comment that opens here. An opener of documentation whose last character is repeated
is a separator, hence at most a plain comment. -/
def lineAt? (style : CommentStyle) (rest : List Char) : Option Opener :=
  let isDoc :=
    match style.docLine.find? (·.isPrefixOf rest) with
    | some d => (rest.drop d.length).head? != d.getLast?
    | none => false
  if isDoc then some (.line true)
  else if style.line.any (·.isPrefixOf rest) then some (.line false)
  else none

/-- The string over several lines that opens at a place. -/
def multilineAt? (style : CommentStyle) (rest : List Char) : Option Opener :=
  (style.multilineStrings.find? (·.isPrefixOf rest)).map .multiline

/-- The string on one line that opens at a place. -/
def quoteAt? (style : CommentStyle) (rest : List Char) : Option Opener :=
  match rest with
  | c :: _ => if style.quotes.contains c then some (.quote c) else none
  | [] => none

/-- What opens here: a block comment, a line comment, a string over several lines or a string, the
first of them that does. -/
def openerAt? (style : CommentStyle) (lineStart : Bool) (rest : List Char) : Option Opener :=
  (style.blockAt? lineStart rest) <|> (style.lineAt? rest) <|> (style.multilineAt? rest) <|>
    (style.quoteAt? rest)

end CommentStyle

/-! ## Steps -/

/-- One step: the mode that follows, how many further characters belong to the same delimiter, and
what was found. -/
structure ScanStep where
  mode : ScanMode
  skip : Nat := 0
  found : Finding := {}
  deriving DecidableEq, Repr

/-- A step at character `c` inside a block comment. -/
def blockStep (closing : List Char) (doc : Bool) (c : Char) (rest : List Char) : ScanStep :=
  if closing.isPrefixOf (c :: rest) then
    { mode := .normal, skip := closing.length - 1, found := .ofComment doc [] }
  else { mode := .block closing doc, found := .ofComment doc [c] }

/-- A step at character `c` outside comments and strings. -/
def normalStep (style : CommentStyle) (s : ScanState) (c : Char) (rest : List Char) : ScanStep :=
  match style.openerAt? (s.codeBlank && !s.docSeen) (c :: rest) with
  | some (.block d doc) =>
    if d.opening.isEmpty then blockStep d.closing doc c rest
    else
      { mode := .block d.closing doc, skip := d.opening.length - 1, found := .ofComment doc [] }
  | some (.line doc) => { mode := .lineComment doc, found := .ofComment doc [c] }
  | some (.multiline delimiter) =>
    let doc := style.docstrings && s.codeBlank
    { mode := .multiline delimiter doc, skip := delimiter.length - 1,
      found := .ofString doc delimiter }
  | some (.quote quote) => { mode := .quoted quote false, found := .ofString false [quote, quote] }
  | none => { mode := .normal, found := .ofChar c }

/-- A step at character `c`, which the characters `rest` follow on the line. -/
def scanStep (style : CommentStyle) (s : ScanState) (c : Char) (rest : List Char) : ScanStep :=
  match s.mode with
  | .normal => normalStep style s c rest
  | .lineComment doc => { mode := .lineComment doc, found := .ofComment doc [c] }
  | .block closing doc =>
    if closing.isEmpty then
      let mark := Finding.ofComment doc []
      let step := normalStep style (s.note mark) c rest
      { step with found := mark ++ step.found }
    else blockStep closing doc c rest
  | .multiline delimiter doc =>
    if delimiter.isPrefixOf (c :: rest) then
      { mode := .normal, skip := delimiter.length - 1, found := .ofString doc delimiter }
    else { mode := .multiline delimiter doc, found := .ofString doc [] }
  | .quoted quote escaped =>
    if escaped then { mode := .quoted quote false }
    else if c = '\\' then { mode := .quoted quote true }
    else if c = quote then { mode := .normal }
    else { mode := .quoted quote false }

/-- Scans a line. The first `skip` characters belong to a delimiter already met. -/
def scanRow (style : CommentStyle) : ScanState → Nat → List Char → ScanMode × Finding
  | s, _, [] => (s.mode.afterLine, {})
  | s, skip + 1, _ :: rest => scanRow style s skip rest
  | s, 0, c :: rest =>
    let step := scanStep style s c rest
    let (mode, found) := scanRow style { s.note step.found with mode := step.mode } step.skip rest
    (mode, step.found ++ found)

end Affinity
