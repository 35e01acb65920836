import Affinity.Unicode

/-!
# Tokens of Python

* `Token` — a token, which knows where it stands. The ends of logical lines and the changes of the
  indentation are tokens of their own.
* `tokens?` — the tokens of a text. Between brackets line breaks count for nothing. Elsewhere the
  indentation of a line opens or closes blocks.

A comment on a line of its own belongs to the innermost block that is indented no deeper than the
comment, as long as no shallower comment came before it: a block ends after the last of its
comments.
-/

namespace Affinity.Python

/-! ## What tokens are -/

/-- What a token is. -/
inductive TokenKind where
  | name
  | number
  | string
  /-- An operator, a bracket or another sign. -/
  | sign
  /-- The end of a logical line. -/
  | newline
  | indent
  | dedent
  | finish
  deriving DecidableEq, Repr

/-- A token. -/
structure Token where
  kind : TokenKind
  /-- The spelling of names and signs. -/
  text : String := ""
  /-- Where it starts and where it stops, counted in characters. -/
  start : Nat := 0
  stop : Nat := 0
  /-- The lines on which it starts and stops, from zero. Of a dedent: the last line of its block. -/
  row : Nat := 0
  endRow : Nat := 0
  /-- A comment stands directly before it. -/
  commented : Bool := false
  /-- The tokens of the expressions inside a formatted string. -/
  inner : List (List Token) := []

namespace Token

/-- The token is a given sign. -/
def isSign (t : Token) (sign : String) : Bool := t.kind == .sign && t.text == sign

/-- The token stands in the text, and is no end of a line or change of the indentation. -/
def isWritten (t : Token) : Bool :=
  t.kind == .name || t.kind == .number || t.kind == .string || t.kind == .sign

/-- The token is a given word. -/
def isWord (t : Token) (word : String) : Bool := t.kind == .name && t.text == word

end Token

/-- Words that are no names. `async`, `await` and others have a meaning in some places only. -/
def reservedWords : List String := [
  "False", "None", "True", "and", "as", "assert", "break", "class", "continue", "def", "del",
  "elif", "else", "except", "finally", "for", "from", "global", "if", "import", "in", "is",
  "lambda", "nonlocal", "not", "or", "pass", "raise", "return", "try", "while", "with", "yield"]

/-- The token is a name. -/
def Token.isName (t : Token) : Bool := t.kind == .name && !reservedWords.contains t.text

/-- The signs, longer ones first. -/
def signs : List String := [
  "**=", "//=", ">>=", "<<=", "...", "!=", "->", ":=", "**", "//", "<<", ">>", "<=", ">=", "==",
  "<>", "+=", "-=", "*=", "/=", "%=", "&=", "|=", "^=", "@=", "+", "-", "*", "/", "%", "@", "&",
  "|", "^", "~", "<", ">", "(", ")", "[", "]", "\x7b", "\x7d", ",", ":", ";", ".", "="]

/-!
## Extent of names, numbers and strings

The functions here tell where a literal that starts at some place of a text ends. A formatted string
holds expressions between braces; `skipString` gives their places as well.
-/

/-- The first place from `i` on, at most `n` characters away, whose character does not satisfy `p`.
-/
def skipWhile (p : Char → Bool) (text : Array Char) : Nat → Nat → Nat
  | 0, i => i
  | n + 1, i =>
    match text[i]? with
    | some c => if p c then skipWhile p text n (i + 1) else i
    | none => i

/-- The end of the run of characters from `i` on that satisfy `p`. -/
def endOfRun (p : Char → Bool) (text : Array Char) (i : Nat) : Nat :=
  skipWhile p text (text.size - i) i

/-- The character at a place; a null character behind the end. -/
def charAt (text : Array Char) (i : Nat) : Char := text.getD i '\x00'

/-- A character with which a name may start. -/
def isNameStart (c : Char) : Bool := c = '_' || (isWordChar c && !isDecimalDigit c)

/-- A digit of a decimal number, or a bar between digits. -/
def isDigitOrBar (c : Char) : Bool := c.isDigit || c = '_'

/-! ### Numbers -/

/-- A digit of a number behind `0` and a letter that stands for its base, or a bar between
digits. -/
def isBasedDigit (letter c : Char) : Bool :=
  c = '_' ||
    match letter.toLower with
    | 'x' => c.isDigit || "abcdef".toList.contains c.toLower
    | 'o' => c.isDigit && c ≤ '7'
    | _ => c = '0' || c = '1'

/-- The end of one of two letters that may stand at `i`. -/
def endOfLetter (letter : Char) (text : Array Char) (i : Nat) : Nat :=
  if (charAt text i).toLower = letter then i + 1 else i

/-- The end of an exponent that may start at `i`. -/
def endOfExponent (text : Array Char) (i : Nat) : Nat :=
  if (charAt text i).toLower = 'e' then
    let sign := charAt text (i + 1)
    let digits := if sign = '+' || sign = '-' then i + 2 else i + 1
    if (charAt text digits).isDigit then endOfRun isDigitOrBar text digits else i
  else i

/-- The end of a number that starts at `i`. A whole number may be marked as long, and a decimal one
as imaginary. -/
def endOfNumber (text : Array Char) (i : Nat) : Nat :=
  let letter := charAt text (i + 1)
  if charAt text i = '0' && "xob".toList.contains letter.toLower then
    let stop := endOfRun (isBasedDigit letter) text (i + 2)
    if stop = i + 2 then i + 1 else endOfLetter 'l' text stop
  else
    let whole := endOfRun isDigitOrBar text i
    let part := if charAt text whole = '.' then endOfRun isDigitOrBar text (whole + 1) else whole
    let power := endOfExponent text part
    let long := if power = whole then endOfLetter 'l' text power else power
    if long = power then endOfLetter 'j' text power else long

/-! ### Strings -/

/-- How a string is written. -/
structure Quote where
  mark : Char
  /-- The mark is written three times, and the string may run over several lines. -/
  triple : Bool
  /-- Braces hold expressions. -/
  formatted : Bool
  /-- Backslashes have no meaning of their own. -/
  raw : Bool

/-- The marks that begin and end strings; the last of them is never written three times. -/
def quoteMarks : List Char := ['"', '\'', '\x60']

/-- The way in which the string is written that has the letters `letters` in front and its mark at
`i`. -/
def quoteAt? (text : Array Char) (letters : List Char) (i : Nat) : Option Quote :=
  let mark := charAt text i
  let lower := letters.map Char.toLower
  if quoteMarks.contains mark && lower.all "frbu".toList.contains then
    some {
      mark
      triple := mark != '\x60' && charAt text (i + 1) = mark && charAt text (i + 2) = mark
      formatted := lower.contains 'f'
      raw := lower.contains 'r' }
  else none

/-- The number of marks at each end of the string. -/
def Quote.width (q : Quote) : Nat := if q.triple then 3 else 1

/-- The string ends at `i`. -/
def Quote.closesAt (q : Quote) (text : Array Char) (i : Nat) : Bool :=
  charAt text i = q.mark &&
    (!q.triple || (charAt text (i + 1) = q.mark && charAt text (i + 2) = q.mark))

/-- The letters of a word that ends before `i` and starts at `start`. -/
def lettersBetween (text : Array Char) (start i : Nat) : List Char :=
  (text.extract start i).toList

mutual

/-- From inside a string to the place after it, with the places of its expressions. -/
def skipString (text : Array Char) (q : Quote) : Nat → Nat → Option (Nat × List (Nat × Nat))
  | 0, _ => none
  | fuel + 1, i =>
    match text[i]? with
    | none => none
    | some c =>
      if c = '\\' then
        let next := charAt text (i + 1)
        if q.formatted && !q.raw && next = 'N' && charAt text (i + 2) = '\x7b' then
          skipString text q fuel (endOfRun (· != '\x7d') text (i + 3) + 1)
        else if q.formatted && (next = '\x7b' || next = '\x7d') then skipString text q fuel (i + 1)
        else if next = '\r' && charAt text (i + 2) = '\n' then skipString text q fuel (i + 3)
        else skipString text q fuel (i + 2)
      else if q.closesAt text i then some (i + q.width, [])
      else if c = '\n' && !q.triple then none
      else if q.formatted && c = '\x7b' then
        if charAt text (i + 1) = '\x7b' then skipString text q fuel (i + 2)
        else
          match skipField text q fuel (i + 1) 0 (i + 1) with
          | none => none
          | some (j, fields) => (skipString text q fuel j).map fun (k, rest) => (k, fields ++ rest)
      else skipString text q fuel (i + 1)

/-- From inside a replacement field, whose expression starts at `start` and in which `depth`
brackets are open, to the place after it. -/
def skipField (text : Array Char) (q : Quote) :
    Nat → Nat → Nat → Nat → Option (Nat × List (Nat × Nat))
  | 0, _, _, _ => none
  | fuel + 1, start, depth, i =>
    match text[i]? with
    | none => none
    | some c =>
      if depth = 0 && c = '\x7d' then some (i + 1, [(start, i)])
      else if depth = 0 && c = ':' then
        (skipFormat text q fuel (i + 1)).map fun (j, fields) => (j, (start, i) :: fields)
      else if depth = 0 && c = '!' && charAt text (i + 1) != '=' then
        let j := endOfRun isWordChar text (i + 1)
        if charAt text j = '\x7d' then some (j + 1, [(start, i)])
        else if charAt text j = ':' then
          (skipFormat text q fuel (j + 1)).map fun (k, fields) => (k, (start, i) :: fields)
        else none
      else if quoteMarks.contains c then skipNested text q fuel start depth i i
      else if isWordChar c then
        let j := endOfRun isWordChar text i
        skipNested text q fuel start depth i j
      else if c = '(' || c = '[' || c = '\x7b' then skipField text q fuel start (depth + 1) (i + 1)
      else if c = ')' || c = ']' || c = '\x7d' then skipField text q fuel start (depth - 1) (i + 1)
      else skipField text q fuel start depth (i + 1)

/-- From a word between `i` and `j` inside a replacement field, which may be the letters in front of
a string, to the place after the field. -/
def skipNested (text : Array Char) (q : Quote) :
    Nat → Nat → Nat → Nat → Nat → Option (Nat × List (Nat × Nat))
  | 0, _, _, _, _ => none
  | fuel + 1, start, depth, i, j =>
    match quoteAt? text (lettersBetween text i j) j with
    | some inner =>
      match skipString text inner fuel (j + inner.width) with
      | some (k, _) => skipField text q fuel start depth k
      | none => none
    | none => if i = j then none else skipField text q fuel start depth j

/-- From inside the format of a replacement field to the place after the field. -/
def skipFormat (text : Array Char) (q : Quote) : Nat → Nat → Option (Nat × List (Nat × Nat))
  | 0, _ => none
  | fuel + 1, i =>
    match text[i]? with
    | none => none
    | some c =>
      if c = '\x7d' then some (i + 1, [])
      else if c = '\x7b' then
        match skipField text q fuel (i + 1) 0 (i + 1) with
        | none => none
        | some (j, fields) => (skipFormat text q fuel j).map fun (k, rest) => (k, fields ++ rest)
      else if q.closesAt text i || (c = '\n' && !q.triple) then none
      else skipFormat text q fuel (i + 1)

end

/-! ## Reading tokens -/

/-! ### The beginning of a logical line -/

/-- What stands before the next line of code. -/
structure Margin where
  /-- The indentation of the line; zero at the end of the text. -/
  indent : Nat := 0
  /-- The comments passed over: indentation and line. -/
  comments : List (Nat × Nat) := []
  /-- Where the line of code begins. -/
  place : Nat
  row : Nat
  deriving Repr

/-- Reads on to the next line of code. Comments are collected backwards. -/
def readMargin (text : Array Char) : Nat → Margin → Margin
  | 0, m => { m with comments := m.comments.reverse }
  | fuel + 1, m =>
    let next (m : Margin) := readMargin text fuel m
    match text[m.place]? with
    | none => { m with indent := 0, comments := m.comments.reverse }
    | some c =>
      if c = ' ' then next { m with indent := m.indent + 1, place := m.place + 1 }
      else if c = '\t' then next { m with indent := m.indent + 8, place := m.place + 1 }
      else if c = '\r' || c = '\x0c' || c = '\ufeff' then
        next { m with indent := 0, place := m.place + 1 }
      else if c = '\n' then next { m with indent := 0, place := m.place + 1, row := m.row + 1 }
      else if c = '#' then
        next { m with
          comments := (m.indent, m.row) :: m.comments
          place := endOfRun (· != '\n') text m.place }
      else if c = '\\' && charAt text (m.place + 1) = '\n' then
        next { m with place := m.place + 2, row := m.row + 1 }
      else { m with comments := m.comments.reverse }

/-- The changes of indentation before a line that is indented by `indent`: the tokens, and the
indentations of the blocks then open, innermost first. `row` is the last line that belongs to the
innermost block. -/
def settle (indent : Nat) : Nat → Nat → List Nat → List (Nat × Nat) → List Token × List Nat
  | 0, _, indents, _ => ([], indents)
  | fuel + 1, row, indents, comments =>
    match indents with
    | [] => ([], [])
    | current :: outer =>
      let deeper := comments.head?.any fun c => current ≤ c.1
      if indent < current && !deeper then
        let (tokens, open') := settle indent fuel row outer comments
        ({ kind := .dedent, row, endRow := row } :: tokens, open')
      else
        match comments with
        | (_, commentRow) :: rest => settle indent fuel commentRow indents rest
        | [] =>
          if current < indent then ([{ kind := .indent, row, endRow := row }], indent :: indents)
          else ([], indents)

/-! ### Tokens -/

/-- The state of the lexer. -/
structure Lexer where
  place : Nat
  row : Nat := 0
  /-- The number of open brackets. -/
  depth : Nat := 0
  /-- The indentations of the open blocks, innermost first. -/
  indents : List Nat := [0]
  /-- The margin of the logical line was not read yet. -/
  fresh : Bool := true
  /-- A comment was read since the last token. -/
  commented : Bool := false
  /-- The tokens read, backwards. -/
  tokens : List Token := []

namespace Lexer

/-- The last line of the last token. -/
def lastRow (s : Lexer) : Nat := (s.tokens.head?.map (·.endRow)).getD 0

/-- Goes on after a token. -/
def add (s : Lexer) (token : Token) : Lexer :=
  { s with
    place := token.stop
    row := token.endRow
    fresh := false
    commented := false
    tokens := { token with commented := s.commented } :: s.tokens }

/-- The logical line has tokens. -/
def lineOpen (s : Lexer) : Bool :=
  match s.tokens with
  | [] => false
  | last :: _ => last.kind != .newline && last.kind != .indent && last.kind != .dedent

/-- Ends the logical line. The end of a line without tokens is no token. -/
def endLine (s : Lexer) : Lexer :=
  if !s.lineOpen then { s with fresh := true, commented := false }
  else
    let row := s.lastRow
    { s with
      fresh := true
      commented := false
      tokens := { kind := .newline, row, endRow := row, start := s.place, stop := s.place } ::
        s.tokens }

/-- Reads on to the next line of code and settles the indentation. -/
def beginLine (text : Array Char) (s : Lexer) : Lexer :=
  let m := readMargin text (text.size + 1) { place := s.place, row := s.row }
  let (tokens, indents) :=
    settle m.indent (s.indents.length + m.comments.length + 1) s.lastRow s.indents m.comments
  { s with
    place := m.place, row := m.row, indents, tokens := tokens.reverse ++ s.tokens
    fresh := false }

/-- The depth of brackets after a sign. -/
def depthAfter (depth : Nat) (sign : String) : Nat :=
  if sign = "(" || sign = "[" || sign = "\x7b" then depth + 1
  else if sign = ")" || sign = "]" || sign = "\x7d" then depth - 1
  else depth

/-- The number of line breaks between two places. -/
def countBreaks (text : Array Char) (start stop : Nat) : Nat :=
  (text.extract start stop).toList.count '\n'

end Lexer

/-- The sign at a place. -/
def signAt? (text : Array Char) (i : Nat) : Option String :=
  signs.find? fun sign => (text.extract i (i + sign.length)).toList == sign.toList

/-- Reads the tokens from the state on to the place `stop`. With `lines` the breaks of lines outside
brackets matter. -/
def lex (text : Array Char) : Nat → Bool → Nat → Lexer → Option Lexer
  | 0, _, _, _ => none
  | fuel + 1, lines, stop, s =>
    if lines && s.depth = 0 && s.fresh then
      lex text fuel lines stop (s.beginLine text)
    else if stop ≤ s.place then some s
    else
      let i := s.place
      let c := charAt text i
      let go (s : Lexer) := lex text fuel lines stop s
      if c = ' ' || c = '\t' || c = '\x0c' || c = '\r' then go { s with place := i + 1 }
      else if c = '\n' then
        let s := { s with place := i + 1, row := s.row + 1 }
        go (if lines && s.depth = 0 then s.endLine else s)
      else if c = '#' then go { s with place := endOfRun (· != '\n') text i, commented := true }
      else if c = '\\' then
        if charAt text (i + 1) = '\n' then go { s with place := i + 2, row := s.row + 1 }
        else if charAt text (i + 1) = '\r' && charAt text (i + 2) = '\n' then
          go { s with place := i + 3, row := s.row + 1 }
        else none
      else
        let word := if isNameStart c then endOfRun isWordChar text i else i
        match quoteAt? text (lettersBetween text i word) word with
        | some q =>
          match skipString text q (2 * text.size + 2) (word + q.width) with
          | none => none
          | some (j, fields) =>
            let inner := fields.mapM fun (a, b) =>
              let row := s.row + Lexer.countBreaks text i a
              (lex text fuel false b { place := a, row, fresh := false }).map (·.tokens.reverse)
            match inner with
            | none => none
            | some inner =>
              go (s.add {
                kind := .string, start := i, stop := j, row := s.row
                endRow := s.row + Lexer.countBreaks text i j, inner })
        | none =>
          if i < word then
            go (s.add {
              kind := .name, text := String.ofList (lettersBetween text i word), start := i
              stop := word, row := s.row, endRow := s.row })
          else if c.isDigit || (c = '.' && (charAt text (i + 1)).isDigit) then
            go (s.add {
              kind := .number, start := i, stop := endOfNumber text i, row := s.row
              endRow := s.row })
          else
            match signAt? text i with
            | none => none
            | some sign =>
              let s := s.add {
                kind := .sign, text := sign, start := i, stop := i + sign.length, row := s.row
                endRow := s.row }
              go { s with depth := Lexer.depthAfter s.depth sign }

/-- The tokens of a text, the last of which is `TokenKind.finish`; nothing if the text holds
something that is no token. -/
def tokens? (text : Array Char) : Option (List Token) :=
  let start := if charAt text 0 = '\ufeff' then 1 else 0
  match lex text (4 * text.size + 8) true text.size { place := start } with
  | none => none
  | some s =>
    let s := (s.endLine).beginLine text
    some ({ kind := .finish, row := s.row, endRow := s.row : Token } :: s.tokens).reverse

end Affinity.Python
