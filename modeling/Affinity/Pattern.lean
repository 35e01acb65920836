import Affinity.Unicode

/-!
# Patterns

A `Pattern` describes texts: sets of characters, sequences, ordered alternatives, repetitions,
named groups and anchors.

* `Pattern.read?` — a pattern from its written form.
* `Pattern.run`, `Pattern.findAll` — what a pattern matches, and which of several matches wins.
-/

namespace Affinity

/-! ## Descriptions of texts -/

/-- One entry of a set of characters. -/
inductive CharSet.Item where
  | range (first last : Char)
  | word
  | digit
  | blank
  deriving DecidableEq, Repr

/-- A set of characters. -/
structure CharSet where
  items : List CharSet.Item
  negated : Bool := false
  /-- Letters stand for both their cases. -/
  ignoreCase : Bool := false
  deriving DecidableEq, Repr

namespace CharSet

/-- The entry covers a character. -/
def Item.contains (c : Char) : Item → Bool
  | .range first last => first ≤ c && c ≤ last
  | .word => isWordChar c
  | .digit => isDecimalDigit c
  | .blank => isBlank c

/-- The characters that differ from a basic letter in case only: besides the other case, the long s
and the Kelvin sign. Every other character stands for itself. -/
def variants (c : Char) : List Char :=
  let base := if c == 'ſ' then 's' else if c == 'K' then 'k' else c.toLower
  if base.isLower then
    base :: base.toUpper :: (if base == 's' then ['ſ'] else if base == 'k' then ['K'] else [])
  else [c]

/-- The set holds a character. -/
def contains (s : CharSet) (c : Char) : Bool :=
  let here (d : Char) := s.items.any (Item.contains d)
  (if s.ignoreCase then (variants c).any here else here c) != s.negated

end CharSet

/-- A condition on a position in a text. -/
inductive Anchor where
  | textStart
  | textEnd
  | lineEnd
  | wordBoundary
  deriving DecidableEq, Repr

/-- A pattern. Alternatives are ordered: the first that leads to a match wins. -/
inductive Pattern where
  | empty
  | chars (set : CharSet)
  | seq (a b : Pattern)
  | alt (a b : Pattern)
  /-- At least `min` and, if there is a bound, at most `max` repetitions; as many as possible when
  `greedy`, else as few. -/
  | repeated (p : Pattern) (min : Nat) (max : Option Nat) (greedy : Bool)
  | group (name : String) (p : Pattern)
  | anchor (a : Anchor)
  deriving DecidableEq, Repr

/-- A pattern that matches nowhere. -/
def Pattern.never : Pattern := .chars { items := [] }

/-!
## The written form of patterns

`Pattern.read?` reads the usual notation: `|`, `*`, `+`, `?`, `{m,n}` with a following `?` for the
shortest repetition, `(…)`, `(?:…)`, `(?P<name>…)`, `[…]`, `.`, `^`, `$`, the classes `\w`, `\d`,
`\s`, a character by two hexadecimal digits after `\x`, the word boundary `\b`, and the leading
flags `(?i)` (letters stand for both cases) and `(?m)` (`$` holds at the end of every line). A group
without a name is named by its number.
-/

namespace Pattern

/-- Settings of a pattern, given by its leading flag. -/
structure Flags where
  ignoreCase : Bool := false
  multiline : Bool := false

/-- The entry of one character. -/
def charItem (c : Char) : CharSet.Item := .range c c

/-- The value of a hexadecimal digit. -/
def hexDigit? (c : Char) : Option Nat :=
  if c.isDigit then some (c.toNat - '0'.toNat)
  else if 'a' ≤ c && c ≤ 'f' then some (c.toNat - 'a'.toNat + 10)
  else none

/-- The class that a letter after a backslash names. -/
def classItem? : Char → Option CharSet.Item
  | 'w' => some .word
  | 'd' => some .digit
  | 's' => some .blank
  | _ => none

/-- What a backslash and the characters after it stand for, and the rest. -/
def readEscape : List Char → Option (CharSet.Item × List Char)
  | 'x' :: high :: low :: rest =>
    match hexDigit? high, hexDigit? low with
    | some h, some l => some (charItem (Char.ofNat (16 * h + l)), rest)
    | _, _ => none
  | c :: rest => some ((classItem? c).getD (charItem c), rest)
  | [] => none

/-- Reads the rest of a bracketed set, up to its closing bracket. -/
def readItems : List Char → List CharSet.Item → Option (List CharSet.Item × List Char)
  | ']' :: rest, items => some (items.reverse, rest)
  | '\\' :: 'x' :: high :: low :: rest, items =>
    match hexDigit? high, hexDigit? low with
    | some h, some l => readItems rest (charItem (Char.ofNat (16 * h + l)) :: items)
    | _, _ => none
  | '\\' :: c :: rest, items => readItems rest ((classItem? c).getD (charItem c) :: items)
  | a :: '-' :: b :: rest, items =>
    if b == ']' then some ((charItem '-' :: charItem a :: items).reverse, rest)
    else readItems rest (.range a b :: items)
  | c :: rest, items => readItems rest (charItem c :: items)
  | [], _ => none

/-- Reads a set behind its opening bracket. -/
def readSet (flags : Flags) : List Char → Option (Pattern × List Char)
  | '^' :: rest => (readItems rest []).map fun (items, rest) =>
      (.chars { items, negated := true, ignoreCase := flags.ignoreCase }, rest)
  | rest => (readItems rest []).map fun (items, rest) =>
      (.chars { items, ignoreCase := flags.ignoreCase }, rest)

/-- Reads a bound of a repetition; there may be none. -/
def readNumber (s : List Char) : Option Nat × List Char :=
  let digits := s.takeWhile Char.isDigit
  let value := digits.foldl (fun n c => 10 * n + (c.toNat - '0'.toNat)) 0
  (if digits.isEmpty then none else some value, s.dropWhile Char.isDigit)

/-- Reads a repetition sign: least count, greatest count, and the rest. -/
def readCounts : List Char → Option (Nat × Option Nat × List Char)
  | '*' :: rest => some (0, none, rest)
  | '+' :: rest => some (1, none, rest)
  | '?' :: rest => some (0, some 1, rest)
  | '{' :: rest =>
    match readNumber rest with
    | (some low, '}' :: rest) => some (low, some low, rest)
    | (some low, ',' :: rest) =>
      match readNumber rest with
      | (high, '}' :: rest) => some (low, high, rest)
      | _ => none
    | _ => none
  | _ => none

/-- Attaches the repetition signs that follow a pattern. -/
def readSuffix (p : Pattern) (s : List Char) : Pattern × List Char :=
  match readCounts s with
  | some (low, high, '?' :: rest) => (.repeated p low high false, rest)
  | some (low, high, rest) => (.repeated p low high true, rest)
  | none => (p, s)

/-- Reads one character, set or anchor that is no group. -/
def readPlain (flags : Flags) : List Char → Option (Pattern × List Char)
  | '\\' :: 'b' :: rest => some (.anchor .wordBoundary, rest)
  | '\\' :: rest =>
    (readEscape rest).map fun (item, rest) =>
      (.chars { items := [item], ignoreCase := flags.ignoreCase }, rest)
  | '.' :: rest => some (.chars { items := [charItem '\n'], negated := true }, rest)
  | '^' :: rest => some (.anchor .textStart, rest)
  | '$' :: rest => some (.anchor (if flags.multiline then .lineEnd else .textEnd), rest)
  | '[' :: rest => readSet flags rest
  | c :: rest => some (.chars { items := [charItem c], ignoreCase := flags.ignoreCase }, rest)
  | [] => none

/-- Reads alternatives up to a closing parenthesis or the end. `groups` counts the numbered groups
met so far; the new count is returned with the rest of the text. -/
def readAlternatives (flags : Flags) :
    Nat → Nat → List Char → Option (Pattern × Nat × List Char)
  | 0, _, _ => none
  | fuel + 1, groups, s =>
    readSequence fuel groups s .empty
where
  /-- Extends the sequence `before` by what follows. -/
  readSequence : Nat → Nat → List Char → Pattern → Option (Pattern × Nat × List Char)
    | 0, _, _, _ => none
    | _ + 1, groups, [], before => some (before, groups, [])
    | fuel + 1, groups, c :: rest, before =>
      if c == ')' then some (before, groups, c :: rest)
      else if c == '|' then
        (readAlternatives flags fuel groups rest).map fun (other, groups, rest) =>
          (.alt before other, groups, rest)
      else
        let item :=
          if c == '(' then readGroup fuel groups rest
          else (readPlain flags (c :: rest)).map fun (p, rest) => (p, groups, rest)
        match item with
        | none => none
        | some (p, groups, rest) =>
          let (p, rest) := readSuffix p rest
          readSequence fuel groups rest (if before == .empty then p else .seq before p)
  /-- Reads the rest of a group, its closing parenthesis included. -/
  readGroup : Nat → Nat → List Char → Option (Pattern × Nat × List Char)
    | 0, _, _ => none
    | fuel + 1, groups, s =>
      let body (groups : Nat) (rest : List Char) (wrap : Pattern → Pattern) :=
        match readAlternatives flags fuel groups rest with
        | some (p, groups, ')' :: rest) => some (wrap p, groups, rest)
        | _ => none
      match s with
      | '?' :: ':' :: rest => body groups rest id
      | '?' :: 'P' :: '<' :: rest =>
        let name := String.ofList (rest.takeWhile (· != '>'))
        body groups ((rest.dropWhile (· != '>')).drop 1) (.group name)
      | rest => body (groups + 1) rest (.group (toString (groups + 1)))

/-- Reads the leading flag. -/
def readFlags : List Char → Flags × List Char
  | '(' :: '?' :: 'i' :: ')' :: rest => ({ ignoreCase := true }, rest)
  | '(' :: '?' :: 'm' :: ')' :: rest => ({ multiline := true }, rest)
  | rest => ({}, rest)

/-- The pattern with the given written form. -/
def read? (s : String) : Option Pattern :=
  let (flags, rest) := readFlags s.toList
  match readAlternatives flags (3 * rest.length + 3) 0 rest with
  | some (p, _, []) => some p
  | _ => none

/-- The pattern with the given written form; a text that is no written form matches nowhere. -/
def ofString (s : String) : Pattern :=
  (read? s).getD .never

end Pattern

/-!
## Matching a pattern against a text

`Pattern.run` explores the ways in which a pattern can match from a position, in order of
preference, and hands each end to a continuation until one accepts. So the first alternative that
leads to a match of the whole wins. `Pattern.findAll` lists the matches of a text from left to
right, none of which overlaps another.
-/

/-- Spans of the groups met so far, the latest first: name, start and end. -/
abbrev Captures := List (String × Nat × Nat)

/-- A match: where it starts, where it ends, and what its groups captured. -/
structure Match where
  start : Nat
  stop : Nat
  captures : Captures := []
  deriving DecidableEq, Repr

/-- The text between two positions. -/
def sliceText (text : Array Char) (start stop : Nat) : List Char :=
  (text.extract start stop).toList

/-- The text of a named group, if the group took part in the match. -/
def Match.group? (m : Match) (text : Array Char) (name : String) : Option (List Char) :=
  (m.captures.find? fun g => g.1 == name).map fun g => sliceText text g.2.1 g.2.2

namespace Anchor

/-- There is a word character at a place. -/
def wordAt (text : Array Char) (i : Nat) : Bool :=
  if h : i < text.size then isWordChar text[i] else false

/-- The condition holds at a place. -/
def holds (text : Array Char) (i : Nat) : Anchor → Bool
  | .textStart => i == 0
  | .textEnd => i == text.size
  | .lineEnd => if h : i < text.size then text[i] == '\n' else true
  | .wordBoundary => (i != 0 && wordAt text (i - 1)) != wordAt text i

end Anchor

/-- What remains to be matched from a position, given the captures so far. -/
abbrev Continuation := Nat → Captures → Option Match

/-- How many of the next `limit` characters from `i` on belong to the set, up to the first that
does not. -/
def CharSet.countFrom (set : CharSet) (text : Array Char) : Nat → Nat → Nat
  | 0, _ => 0
  | limit + 1, i =>
    if h : i < text.size then
      if set.contains text[i] then set.countFrom text limit (i + 1) + 1 else 0
    else 0

/-- Tries `k` after `least + n`, …, `least + 1`, `least` characters from `i`, in this order. -/
def longestFirst (k : Continuation) (caps : Captures) (i least : Nat) : Nat → Option Match
  | 0 => k (i + least) caps
  | n + 1 =>
    match k (i + least + (n + 1)) caps with
    | some m => some m
    | none => longestFirst k caps i least n

/-- Tries `k` at `i`, `i + 1`, …, `i + n`, in this order. -/
def shortestFirst (k : Continuation) (caps : Captures) (i : Nat) : Nat → Option Match
  | 0 => k i caps
  | n + 1 =>
    match k i caps with
    | some m => some m
    | none => shortestFirst k caps (i + 1) n

/-- Repeats the step `once`. An optional repetition that consumes nothing is abandoned, so `fuel`
beyond the least count and the length of the text is never used up. -/
def repeatStep (once : Continuation → Continuation) (greedy : Bool) (k : Continuation) :
    Nat → Nat → Option Nat → Continuation
  | 0, _, _, i, caps => k i caps
  | fuel + 1, min, max, i, caps =>
    let more : Unit → Option Match := fun _ =>
      if max == some 0 then none
      else
        once (fun j caps' =>
          if j == i && min == 0 then none
          else repeatStep once greedy k fuel (min - 1) (max.map (· - 1)) j caps') i caps
    if min > 0 then more ()
    else if greedy then (more ()).orElse fun _ => k i caps
    else (k i caps).orElse more

namespace Pattern

/-- Matches the pattern from position `i`, then `k`. -/
def run (text : Array Char) : Pattern → Continuation → Continuation
  | .empty, k, i, caps => k i caps
  | .chars set, k, i, caps =>
    if h : i < text.size then
      if set.contains text[i] then k (i + 1) caps else none
    else none
  | .seq a b, k, i, caps => run text a (run text b k) i caps
  | .alt a b, k, i, caps => (run text a k i caps).orElse fun _ => run text b k i caps
  | .repeated (.chars set) min max greedy, k, i, caps =>
    let available := set.countFrom text (max.getD (text.size - i)) i
    if available < min then none
    else if greedy then longestFirst k caps i min (available - min)
    else shortestFirst k caps (i + min) (available - min)
  | .repeated p min max greedy, k, i, caps =>
    repeatStep (run text p) greedy k (min + (text.size - i) + 1) min max i caps
  | .group name p, k, i, caps =>
    run text p (fun j caps' => k j ((name, i, j) :: caps')) i caps
  | .anchor a, k, i, caps => if a.holds text i then k i caps else none

/-- The preferred match that starts at `i`. -/
def matchAt (p : Pattern) (text : Array Char) (i : Nat) : Option Match :=
  p.run text (fun j caps => some ⟨i, j, caps⟩) i []

/-- The first match that starts at one of the `n` positions from `i` on. -/
def findFrom (p : Pattern) (text : Array Char) : Nat → Nat → Option Match
  | 0, _ => none
  | n + 1, i =>
    match p.matchAt text i with
    | some m => some m
    | none => p.findFrom text n (i + 1)

/-- The leftmost match. -/
def find? (p : Pattern) (text : Array Char) : Option Match :=
  p.findFrom text (text.size + 1) 0

/-- The matches from `i` on, at most `fuel` of them. -/
def findAllFrom (p : Pattern) (text : Array Char) : Nat → Nat → List Match
  | 0, _ => []
  | fuel + 1, i =>
    match p.findFrom text (text.size + 1 - i) i with
    | some m => m :: p.findAllFrom text fuel (if m.stop == m.start then m.stop + 1 else m.stop)
    | none => []

/-- All matches from left to right; the next starts where the last one ended. -/
def findAll (p : Pattern) (text : Array Char) : List Match :=
  p.findAllFrom text (text.size + 1) 0

/-- Whether the pattern matches somewhere in the text. -/
def isMatch (p : Pattern) (text : List Char) : Bool :=
  (p.find? text.toArray).isSome

/-- The number of matches in the text. -/
def count (p : Pattern) (text : List Char) : Nat :=
  (p.findAll text.toArray).length

/-- The text of the group `name` in each match in which it took part. -/
def groups (p : Pattern) (name : String) (text : List Char) : List (List Char) :=
  let chars := text.toArray
  (p.findAll chars).filterMap (·.group? chars name)

end Pattern

end Affinity
