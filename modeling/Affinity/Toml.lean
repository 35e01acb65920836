import Affinity.Json
import Affinity.Text.Number

/-!
# Documents of tables

A document is a table. Keys enter it under the header of their table; a header may name tables
inside of others, and each table may be opened once. Keys with dots open tables of their own, which
no header may open again. A table in braces is a value like any other: nothing can be added to it.

* `Document.openTable?`, `Document.addTable?`, `Document.put?` — the steps by which a document
  grows; nothing if the step is not allowed.
* `Document.toJson` — the value of a document.
* `Toml.parse?` — the value of the document that a text describes, if it describes one.
-/

namespace Affinity.Toml

/-- How a table came about. -/
inductive Origin where
  /-- It was opened by a header. -/
  | opened
  /-- A header named a table inside of it. -/
  | implied
  /-- A key with dots named a key inside of it. -/
  | dotted
  deriving DecidableEq, Repr

/-- What stands under a key. -/
inductive Item where
  | value (v : Json)
  | table (origin : Origin) (entries : List (String × Item))
  /-- Tables under one header, the last one first. -/
  | tables (items : List (List (String × Item)))
  deriving Inhabited

/-- The entries of a table. -/
abbrev Document := List (String × Item)

namespace Document

/-- What stands under a key. -/
def get? (d : Document) (key : String) : Option Item := (d.find? fun e => e.1 == key).map (·.2)

/-- Puts an item in place of the one under its key, or at the end. -/
def set (key : String) (item : Item) : Document → Document
  | [] => [(key, item)]
  | (k, old) :: rest => if k == key then (key, item) :: rest else (k, old) :: set key item rest

/-- Changes the table under a path of keys, opening what is missing on the way. Of several tables
under one header the last is meant. -/
def change? (f : Document → Option Document) : List String → Document → Option Document
  | [], d => f d
  | key :: path, d =>
    match d.get? key with
    | none => (change? f path []).map fun t => d.set key (.table .implied t)
    | some (.table origin t) => (change? f path t).map fun t => d.set key (.table origin t)
    | some (.tables (t :: others)) =>
      (change? f path t).map fun t => d.set key (.tables (t :: others))
    | some _ => none

/-- Opens the table of a header: under `path` the one with the last key. -/
def openTable? (path : List String) (key : String) : Document → Option Document :=
  change? (fun d =>
    match d.get? key with
    | none => some (d.set key (.table .opened []))
    | some (.table .implied t) => some (d.set key (.table .opened t))
    | some _ => none) path

/-- Adds a table to those under a header. -/
def addTable? (path : List String) (key : String) : Document → Option Document :=
  change? (fun d =>
    match d.get? key with
    | none => some (d.set key (.tables [[]]))
    | some (.tables items) => some (d.set key (.tables ([] :: items)))
    | some _ => none) path

/-- Puts a value under a key with dots, given as the path before the last key and that key. -/
def putDotted? (value : Json) (last : String) : List String → Document → Option Document
  | [], d => if (d.get? last).isSome then none else some (d.set last (.value value))
  | key :: path, d =>
    match d.get? key with
    | none => (putDotted? value last path []).map fun t => d.set key (.table .dotted t)
    | some (.table .dotted t) =>
      (putDotted? value last path t).map fun t => d.set key (.table .dotted t)
    | some (.table .implied t) =>
      if path.isEmpty then none
      else (putDotted? value last path t).map fun t => d.set key (.table .implied t)
    | some _ => none

/-- Puts a value into the table under a header. -/
def put? (header path : List String) (last : String) (value : Json) : Document → Option Document :=
  change? (putDotted? value last path) header

end Document

mutual

/-- The value of an item. -/
def Item.toJson : Item → Json
  | .value v => v
  | .table _ entries => .obj (entriesToJson entries)
  | .tables items => .arr (tablesToJson items).reverse

/-- The fields of a table. -/
def entriesToJson : List (String × Item) → List (String × Json)
  | [] => []
  | (key, item) :: rest => (key, item.toJson) :: entriesToJson rest

/-- Several tables with one name. -/
def tablesToJson : List (List (String × Item)) → List Json
  | [] => []
  | entries :: rest => .obj (entriesToJson entries) :: tablesToJson rest

end

/-- The value of a document. -/
def Document.toJson (d : Document) : Json := .obj (entriesToJson d)

/-!
## Reading documents of tables

A line holds a key with its value, a header, or neither; a comment may follow. Values are texts in
four kinds of quotes, numbers, truth values, dates, arrays and tables in braces.
-/

/-- The rest of a text after something was read. -/
abbrev Rest := List Char

/-! ### Blanks and comments -/

/-- A blank inside a line. -/
def isBlankChar (c : Char) : Bool := c = ' ' || c = '\t'

/-- What follows the blanks inside a line. -/
def skipBlanks (s : Rest) : Rest := s.dropWhile isBlankChar

/-- A control character that may not be written as such. -/
def isControl (c : Char) : Bool := (c.toNat < 32 && c != '\t') || c.toNat = 127

/-- What follows the blanks and the comment at the end of a line; nothing if the line is not over or
the comment holds a control character. -/
def lineEnd? (s : Rest) : Option Rest :=
  let s := skipBlanks s
  let s := match s with
    | '#' :: comment => comment.dropWhile fun c => !isControl c
    | _ => s
  match s with
  | [] => some []
  | '\n' :: rest => some rest
  | '\r' :: '\n' :: rest => some rest
  | _ => none

/-- What follows blanks, comments and line breaks. -/
def skipLines : Nat → Rest → Rest
  | 0, s => s
  | fuel + 1, s =>
    let s := skipBlanks s
    match s with
    | '#' :: _ | '\n' :: _ | '\r' :: _ =>
      match lineEnd? s with
      | some rest => if rest.length < s.length then skipLines fuel rest else s
      | none => s
    | _ => s

/-- What follows blanks, line breaks and comments. -/
def skipSpace (s : Rest) : Rest := skipLines s.length s

/-! ### Texts -/

/-- The number that some hexadecimal digits stand for, if there are as many as asked for. -/
def readHex? (count : Nat) (s : Rest) : Option (Nat × Rest) :=
  let digits := (s.take count).filterMap Json.hexValue?
  if digits.length = count then some (digits.foldl (fun n d => 16 * n + d) 0, s.drop count)
  else none

/-- The character with a given number. -/
def scalar? (n : Nat) : Option Char :=
  if n < 0xD800 || (0xDFFF < n && n < 0x110000) then some (Char.ofNat n) else none

/-- The character after a backslash. -/
def readEscape? : Rest → Option (Char × Rest)
  | 'b' :: rest => some ('\x08', rest)
  | 't' :: rest => some ('\t', rest)
  | 'n' :: rest => some ('\n', rest)
  | 'f' :: rest => some ('\x0c', rest)
  | 'r' :: rest => some ('\r', rest)
  | '"' :: rest => some ('"', rest)
  | '\\' :: rest => some ('\\', rest)
  | 'u' :: rest => (readHex? 4 rest).bind fun (n, rest) => (scalar? n).map (·, rest)
  | 'U' :: rest => (readHex? 8 rest).bind fun (n, rest) => (scalar? n).map (·, rest)
  | _ => none

/-- Reads the rest of a text in double quotes; `text` is what was read, backwards. -/
def readBasic : Nat → List Char → Rest → Option (String × Rest)
  | 0, _, _ => none
  | fuel + 1, text, s =>
    match s with
    | '"' :: rest => some (String.ofList text.reverse, rest)
    | '\\' :: rest => (readEscape? rest).bind fun (c, rest) => readBasic fuel (c :: text) rest
    | c :: rest => if isControl c then none else readBasic fuel (c :: text) rest
    | [] => none

/-- Reads the rest of a text in single quotes. -/
def readLiteral (s : Rest) : Option (String × Rest) :=
  let text := s.takeWhile fun c => c != '\'' && !isControl c
  match s.drop text.length with
  | '\'' :: rest => some (String.ofList text, rest)
  | _ => none

/-- The end of a text in three quotes: up to two more of them still belong to it. -/
def closing? (quote : Char) (text : List Char) (s : Rest) : Option (String × Rest) :=
  let quotes := (s.takeWhile (· = quote)).length
  if quotes < 3 then none
  else
    let inside := min (quotes - 3) 2
    some (String.ofList (List.replicate inside quote ++ text).reverse, s.drop (inside + 3))

/-- What follows a backslash at the end of a line: the next character that is not blank. -/
def afterLineEscape? (s : Rest) : Option Rest :=
  match skipBlanks s with
  | '\n' :: rest | '\r' :: '\n' :: rest =>
    some (rest.dropWhile fun c => isBlankChar c || c = '\n' || c = '\r')
  | _ => none

/-- Reads the rest of a text in three quotes; `escapes` says whether a backslash has a meaning. -/
def readLong (quote : Char) (escapes : Bool) : Nat → List Char → Rest → Option (String × Rest)
  | 0, _, _ => none
  | fuel + 1, text, s =>
    match closing? quote text s with
    | some result => some result
    | none =>
      match s with
      | '\r' :: '\n' :: rest => readLong quote escapes fuel ('\n' :: text) rest
      | '\n' :: rest => readLong quote escapes fuel ('\n' :: text) rest
      | c :: rest =>
        if escapes && c = '\\' then
          match afterLineEscape? rest with
          | some rest => readLong quote escapes fuel text rest
          | none => (readEscape? rest).bind fun (c, rest) =>
            readLong quote escapes fuel (c :: text) rest
        else if isControl c then none
        else readLong quote escapes fuel (c :: text) rest
      | [] => none

/-- The text after three quotes without a line break at its beginning. -/
def dropFirstBreak : Rest → Rest
  | '\n' :: rest => rest
  | '\r' :: '\n' :: rest => rest
  | rest => rest

/-- Reads a text in quotes. -/
def readText? (s : Rest) : Option (String × Rest) :=
  match s with
  | '"' :: '"' :: '"' :: rest => readLong '"' true (s.length + 1) [] (dropFirstBreak rest)
  | '\'' :: '\'' :: '\'' :: rest => readLong '\'' false (s.length + 1) [] (dropFirstBreak rest)
  | '"' :: rest => readBasic (s.length + 1) [] rest
  | '\'' :: rest => readLiteral rest
  | _ => none

/-! ### Keys -/

/-- A character of a key without quotes. -/
def isBareKey (c : Char) : Bool := c.isAlphanum || c = '_' || c = '-'

/-- Reads a key without dots. -/
def readSimpleKey? (s : Rest) : Option (String × Rest) :=
  match s with
  | '"' :: rest => readBasic (s.length + 1) [] rest
  | '\'' :: rest => readLiteral rest
  | _ =>
    let name := s.takeWhile isBareKey
    if name.isEmpty then none else some (String.ofList name, s.drop name.length)

/-- Reads a key; its parts are given in order. -/
def readKey? : Nat → Rest → Option (List String × Rest)
  | 0, _ => none
  | fuel + 1, s =>
    match readSimpleKey? (skipBlanks s) with
    | none => none
    | some (part, rest) =>
      match skipBlanks rest with
      | '.' :: more => (readKey? fuel more).map fun (parts, rest) => (part :: parts, rest)
      | rest => some ([part], rest)

/-! ### Numbers and dates -/

/-- The digits of a number without the underscores between them. -/
def joinDigits? (isDigit : Char → Bool) (s : List Char) : Option (List Char) :=
  let groups := pieces (· = '_') s
  if groups.all fun g => !g.isEmpty && g.all isDigit then some groups.flatten else none

/-- A whole number in base sixteen, eight or two. -/
def readBased? (base : Nat) (s : List Char) : Option Json :=
  let isDigit (c : Char) : Bool := ((Json.hexValue? c).map fun d => decide (d < base)).getD false
  (joinDigits? isDigit s).bind fun digits =>
    let n := (digits.filterMap Json.hexValue?).foldl (fun n d => base * n + d) 0
    if n < integerLimit then some (.int n) else none

/-- The first digit of several is not zero. -/
def hasNoLeadingZero (digits : List Char) : Bool :=
  match digits with
  | '0' :: _ :: _ => false
  | _ => true

/-- The digits of a decimal exponent at the end of a number. -/
def exponentDigits? : List Char → Option (List Char)
  | [] => some []
  | e :: rest =>
    if e = 'e' || e = 'E' then
      let (negative, digits) := splitSign rest
      (joinDigits? Char.isDigit digits).map fun digits =>
        'e' :: (if negative then ['-'] else []) ++ digits
    else none

/-- A decimal number. -/
def readDecimal? (negative : Bool) (s : List Char) : Option Json :=
  let isPart (c : Char) : Bool := c.isDigit || c = '_'
  match joinDigits? Char.isDigit (s.takeWhile isPart) with
  | none => none
  | some whole =>
    if !hasNoLeadingZero whole then none
    else
      let sign := if negative then ['-'] else []
      match s.dropWhile isPart with
      | [] => (integer? (sign ++ whole)).map .int
      | rest =>
        let fraction? : Option (List Char × List Char) :=
          match rest with
          | '.' :: more =>
            (joinDigits? Char.isDigit (more.takeWhile isPart)).map fun digits =>
              ('.' :: digits, more.dropWhile isPart)
          | more => some ([], more)
        fraction?.bind fun (fraction, rest) =>
          (exponentDigits? rest).bind fun exponent =>
            (decimal? (sign ++ whole ++ fraction ++ exponent)).bind fun x =>
              if x.isFinite then some (.float x) else none

/-- A number of exactly `count` digits between two bounds. -/
def readField? (count least greatest : Nat) (s : Rest) : Option (Nat × Rest) :=
  let digits := s.take count
  let n := Json.digitsValue digits
  if digits.length = count && digits.all Char.isDigit && least ≤ n && n ≤ greatest then
    some (n, s.drop count)
  else none

/-- The number of days of a month. -/
def daysOf (year month : Nat) : Nat :=
  if month = 2 then
    if year % 4 = 0 && (year % 100 != 0 || year % 400 = 0) then 29 else 28
  else if [4, 6, 9, 11].contains month then 30
  else 31

/-- What follows a character at the beginning. -/
def after? (c : Char) : Rest → Option Rest
  | first :: rest => if first = c then some rest else none
  | [] => none

/-- What follows a date. -/
def afterDate? (s : Rest) : Option Rest := do
  let (year, s) ← readField? 4 0 9999 s
  let s ← after? '-' s
  let (month, s) ← readField? 2 1 12 s
  let s ← after? '-' s
  let (_, s) ← readField? 2 1 (daysOf year month) s
  return s

/-- What follows a time of day. -/
def afterTime? (s : Rest) : Option Rest := do
  let (_, s) ← readField? 2 0 23 s
  let s ← after? ':' s
  let (_, s) ← readField? 2 0 59 s
  let s ← after? ':' s
  let (_, s) ← readField? 2 0 60 s
  match s with
  | '.' :: rest =>
    let digits := rest.takeWhile Char.isDigit
    if digits.isEmpty then none else return rest.drop digits.length
  | _ => return s

/-- What follows the distance from universal time; a time may lack it. -/
def afterOffset? (s : Rest) : Option Rest :=
  match s with
  | 'Z' :: rest | 'z' :: rest => some rest
  | '+' :: rest | '-' :: rest => do
    let (_, s) ← readField? 2 0 23 rest
    let s ← after? ':' s
    let (_, s) ← readField? 2 0 59 s
    return s
  | _ => some s

/-- What follows a date, a time of day or both. -/
def afterMoment? (s : Rest) : Option Rest :=
  match afterDate? s with
  | none => afterTime? s
  | some rest =>
    match rest with
    | 'T' :: more | 't' :: more => (afterTime? more).bind afterOffset?
    | ' ' :: more =>
      match afterTime? more with
      | some after => afterOffset? after
      | none => some rest
    | _ => some rest

/-- The text begins like a date or a time of day. -/
def looksLikeMoment (s : Rest) : Bool :=
  let digits := (s.takeWhile Char.isDigit).length
  match s.drop digits with
  | '-' :: _ => digits = 4
  | ':' :: _ => digits = 2
  | _ => false

/-- A character of a number, a date or a truth value. -/
def isWordChar (c : Char) : Bool := isBareKey c || c = '+' || c = '.'

/-- A number or truth value written as one word. -/
def wordValue? (word : List Char) : Option Json :=
  match String.ofList word with
  | "true" => some (.bool true)
  | "false" => some (.bool false)
  | _ =>
    match word with
    | '0' :: 'x' :: digits => readBased? 16 digits
    | '0' :: 'o' :: digits => readBased? 8 digits
    | '0' :: 'b' :: digits => readBased? 2 digits
    | _ =>
      let (negative, rest) := splitSign word
      if rest = "inf".toList then
        some (.float (if negative then -1.0 / 0.0 else 1.0 / 0.0))
      else if rest = "nan".toList then some (.float (0.0 / 0.0))
      else readDecimal? negative rest

/-- A date as a value. -/
def momentValue (text : List Char) : Json := .obj [("datetime", .str (String.ofList text))]

/-- Reads a value without parts. -/
def readSimple? (s : Rest) : Option (Json × Rest) :=
  match s with
  | '"' :: _ | '\'' :: _ => (readText? s).map fun (t, rest) => (.str t, rest)
  | _ =>
    if looksLikeMoment s then
      (afterMoment? s).map fun rest => (momentValue (s.take (s.length - rest.length)), rest)
    else
      let word := s.takeWhile isWordChar
      (wordValue? word).map (·, s.drop word.length)

/-! ### Values -/

mutual

/-- Reads a value. -/
def readValue? : Nat → Rest → Option (Json × Rest)
  | 0, _ => none
  | fuel + 1, s =>
    match s with
    | '[' :: rest => readItems? fuel [] (skipSpace rest)
    | '\x7b' :: rest =>
      match skipBlanks rest with
      | '\x7d' :: rest => some (.obj [], rest)
      | rest => readMembers? fuel [] rest
    | _ => readSimple? s

/-- Reads the items of an array up to its end; those read so far are given backwards. -/
def readItems? : Nat → List Json → Rest → Option (Json × Rest)
  | 0, _, _ => none
  | fuel + 1, items, s =>
    match s with
    | ']' :: rest => some (.arr items.reverse, rest)
    | _ =>
      match readValue? fuel s with
      | none => none
      | some (item, rest) =>
        match skipSpace rest with
        | ',' :: rest => readItems? fuel (item :: items) (skipSpace rest)
        | ']' :: rest => some (.arr (item :: items).reverse, rest)
        | _ => none

/-- Reads the keys and values of a table in braces up to its end. -/
def readMembers? : Nat → Document → Rest → Option (Json × Rest)
  | 0, _, _ => none
  | fuel + 1, d, s =>
    match readKey? (s.length + 1) s with
    | none => none
    | some (key, rest) =>
      match rest with
      | '=' :: rest =>
        match readValue? fuel (skipBlanks rest) with
        | none => none
        | some (value, rest) =>
          match d.put? [] key.dropLast (key.getLastD "") value with
          | none => none
          | some d =>
            match skipBlanks rest with
            | ',' :: rest => readMembers? fuel d (skipBlanks rest)
            | '\x7d' :: rest => some (d.toJson, rest)
            | _ => none
      | _ => none

end

/-! ### Documents -/

/-- A document under way. -/
structure State where
  document : Document := []
  /-- The path of the table to which keys are added. -/
  header : List String := []

/-- Reads a header after its first bracket, up to the end of the line. -/
def readHeader? (state : State) (s : Rest) : Option (State × Rest) :=
  let (isArray, s) := match s with
    | '[' :: rest => (true, rest)
    | _ => (false, s)
  (readKey? (s.length + 1) s).bind fun (key, rest) =>
    let rest? := match isArray, rest with
      | true, ']' :: ']' :: rest => some rest
      | false, ']' :: rest => some rest
      | _, _ => none
    rest?.bind fun rest =>
      let document? :=
        if isArray then state.document.addTable? key.dropLast (key.getLastD "")
        else state.document.openTable? key.dropLast (key.getLastD "")
      document?.bind fun document =>
        (lineEnd? rest).map fun rest => ({ document, header := key }, rest)

/-- Reads a key with its value, up to the end of the line. -/
def readLine? (state : State) (s : Rest) : Option (State × Rest) :=
  (readKey? (s.length + 1) s).bind fun (key, rest) =>
    match rest with
    | '=' :: rest =>
      let rest := skipBlanks rest
      (readValue? (2 * rest.length + 2) rest).bind fun (value, rest) =>
        (state.document.put? state.header key.dropLast (key.getLastD "") value).bind
          fun document => (lineEnd? rest).map fun rest => ({ state with document }, rest)
    | _ => none

/-- Reads lines to the end of the text. -/
def readLines? : Nat → State → Rest → Option State
  | 0, _, _ => none
  | fuel + 1, state, s =>
    let s := skipSpace s
    match s with
    | [] => some state
    | '[' :: rest => (readHeader? state rest).bind fun (state, rest) => readLines? fuel state rest
    | _ => (readLine? state s).bind fun (state, rest) => readLines? fuel state rest

/-- The value of a document. -/
def parse? (text : List Char) : Option Json :=
  let s := match text with
    | '\uFEFF' :: rest => rest
    | _ => text
  (readLines? (s.length + 1) {} s).map fun state => state.document.toJson

end Affinity.Toml
