import Affinity.Table
import Affinity.Unicode

/-!
# Lines, margins and words of a text

* `lines` — a line ends at a line feed; one carriage return before it belongs to the line break, and
  a final line break opens no further line.
* `trim`, `trimStart`, `trimEnd` — a text without the blanks at its margins.
* `words` — the maximal runs of characters that are not blank.
* `pieces` — the parts of a text between the characters that satisfy a test.
* `indentation` — the width of the blanks in front of a line, a tab counting four columns.
* `parameterCount` — the number of parameters in the text between the parentheses of a signature.
-/

namespace Affinity

/-! ## Lines -/

/-- Puts one more character in front of the lines of a text. The flag says whether that text starts
with a line feed, in which case a carriage return before it is part of the line break. -/
def addToLines (c : Char) : Bool × List (List Char) → Bool × List (List Char)
  | (beforeBreak, rows) =>
    if c = '\n' then (true, [] :: rows)
    else if c = '\r' && beforeBreak then (false, rows)
    else
      match rows with
      | [] => (false, [[c]])
      | first :: others => (false, (c :: first) :: others)

/-- The lines of a text, without their line breaks. -/
def lines (s : List Char) : List (List Char) :=
  (s.foldr addToLines (false, [])).2

/-- The number of lines of a text. -/
def lineCount (s : List Char) : Nat :=
  (lines s).length

/-! ## Margins -/

/-- A text without the blanks in front. -/
def trimStart (s : List Char) : List Char :=
  s.dropWhile isBlank

/-- The text without the characters at its end that satisfy `p`. -/
def dropWhileEnd (p : Char → Bool) (s : List Char) : List Char :=
  (s.reverse.dropWhile p).reverse

/-- A text without the blanks at its end. -/
def trimEnd (s : List Char) : List Char :=
  dropWhileEnd isBlank s

/-- A text without the blanks at its margins. -/
def trim (s : List Char) : List Char :=
  trimEnd (trimStart s)

/-- The text holds nothing but blanks. -/
def allBlank (s : List Char) : Bool :=
  s.all isBlank

/-! ## Parts -/

/-- The parts of a text between the characters that satisfy `p`; one more than there are such
characters. -/
def pieces (p : Char → Bool) (s : List Char) : List (List Char) :=
  s.foldr (fun c parts =>
    if p c then [] :: parts
    else
      match parts with
      | [] => [[c]]
      | first :: others => (c :: first) :: others) [[]]

/-- The nonempty parts between the characters that satisfy `p`. -/
def fields (p : Char → Bool) (s : List Char) : List (List Char) :=
  (pieces p s).filter (!·.isEmpty)

/-- The words of a text. -/
def words (s : List Char) : List (List Char) :=
  fields isBlank s

/-- The text with every run of blanks narrowed to one space, and none at its margins. -/
def collapseBlanks (s : List Char) : List Char :=
  (words s).intersperse [' '] |>.flatten

/-- The text is at the end of the other. -/
def endsWith (s : List Char) (suffix : String) : Bool :=
  suffix.toList.isSuffixOf s

/-- The text is at the beginning of the other. -/
def startsWith (s : List Char) (start : String) : Bool :=
  start.toList.isPrefixOf s

/-- The text occurs in the other. -/
def contains (s : List Char) (part : List Char) : Bool :=
  match s with
  | [] => part.isEmpty
  | _ :: rest => part.isPrefixOf s || contains rest part

/-- Every occurrence of a character replaced by a text. -/
def replaceChar (old : Char) (new : List Char) (s : List Char) : List Char :=
  s.flatMap fun c => if c = old then new else [c]

/-! ## Indentation and parameter lists -/

/-- The width of the blanks in front of a line; a tab is four columns wide. -/
def indentation (line : List Char) : Nat :=
  sumOf ((line.takeWhile isBlank).map fun c => if c = '\t' then 4 else 1)

/-- A bracket inside which commas divide nothing. -/
def isOpening (c : Char) : Bool :=
  c = '(' || c = '<' || c = '[' || c = '\x7b'

/-- The other end of such a bracket. -/
def isClosing (c : Char) : Bool :=
  c = ')' || c = '>' || c = ']' || c = '\x7d'

/-- The number of commas outside brackets. A closing bracket that closes nothing puts what follows
out of reach until an opening bracket makes up for it. -/
def outerCommas : Int → List Char → Nat
  | _, [] => 0
  | depth, c :: rest =>
    if isOpening c then outerCommas (depth + 1) rest
    else if isClosing c then outerCommas (depth - 1) rest
    else if c = ',' && depth = 0 then outerCommas depth rest + 1
    else outerCommas depth rest

/-- The number of parameters in a parameter list. One comma at the end separates nothing. -/
def parameterCount (params : List Char) : Nat :=
  let inner := trim params
  if inner.isEmpty || inner = "void".toList then 0
  else outerCommas 0 inner + 1 - (if endsWith inner "," then 1 else 0)

end Affinity
