import Affinity.Decimal
import Affinity.Table

/-!
# Structured values

`Json` holds the values of structured reports and settings. Whole numbers and floating-point numbers
are told apart; the fields of an object keep their order.

* `Json.render` — a value on one line.
* `Json.renderIndented` — a value over several lines, two columns for every level.
* `Json.overlay` — one value laid over another.
* `Json.parse?` — the value that a text describes.
-/

namespace Affinity

/-- Whole numbers without a sign are below this: they fit into 64 bits. -/
def naturalLimit : Nat := 18446744073709551616

/-- Whole numbers with a sign are below this, and not below its negative. -/
def integerLimit : Nat := 9223372036854775808

/-- A structured value. -/
inductive Json where
  | null
  | bool (value : Bool)
  | int (value : Int)
  | float (value : Float)
  | str (value : String)
  | arr (items : List Json)
  | obj (fields : List (String × Json))
  deriving Inhabited

namespace Json

/-- A count. -/
def ofNat (n : Nat) : Json := .int n

/-- A list of texts. -/
def strings (items : List String) : Json := .arr (items.map .str)

/-- A value or, in place of a missing one, null. -/
def ofOption {α : Type} (f : α → Json) : Option α → Json
  | some x => f x
  | none => .null

/-- The field of an object with a given name. -/
def field? (value : Json) (name : String) : Option Json :=
  match value with
  | .obj fields => (fields.find? fun f => f.1 == name).map (·.2)
  | _ => none

/-! ## Texts and numbers -/

/-- The hexadecimal digits in their order. -/
def hexDigits : List Char := "0123456789abcdef".toList

/-- The last four hexadecimal digits of a number. -/
def hex4 (n : Nat) : List Char :=
  [n / 4096, n / 256, n / 16, n].map fun d => hexDigits.getD (d % 16) '0'

/-- A character inside a quoted text. -/
def escapeChar (c : Char) : List Char :=
  if c = '"' then ['\\', '"']
  else if c = '\\' then ['\\', '\\']
  else if c = '\n' then ['\\', 'n']
  else if c = '\r' then ['\\', 'r']
  else if c = '\t' then ['\\', 't']
  else if c = '\x08' then ['\\', 'b']
  else if c = '\x0c' then ['\\', 'f']
  else if c.toNat < 32 then '\\' :: 'u' :: hex4 c.toNat
  else [c]

/-- A text in quotes. -/
def quoted (s : String) : String :=
  String.ofList ('"' :: s.toList.flatMap escapeChar ++ ['"'])

/-- A floating-point number; null if it is not finite. -/
def floatText (x : Float) : String :=
  match Decimal.ofFloat? x with
  | some d => Layout.structured.write d
  | none => "null"

/-- A value that has no parts. -/
def scalarText : Json → String
  | .null => "null"
  | .bool b => if b then "true" else "false"
  | .int n => toString n
  | .float x => floatText x
  | .str s => quoted s
  | _ => ""

/-! ## Rendering -/

mutual

/-- The value on one line. -/
def render : Json → String
  | .arr items => "[" ++ String.intercalate "," (renderItems items) ++ "]"
  | .obj fields => "\x7b" ++ String.intercalate "," (renderFields fields) ++ "\x7d"
  | .null => "null"
  | .bool b => scalarText (.bool b)
  | .int n => scalarText (.int n)
  | .float x => scalarText (.float x)
  | .str s => scalarText (.str s)

/-- Several values, each on one line. -/
def renderItems : List Json → List String
  | [] => []
  | item :: rest => item.render :: renderItems rest

/-- Several fields, each on one line. -/
def renderFields : List (String × Json) → List String
  | [] => []
  | (name, value) :: rest => (quoted name ++ ":" ++ value.render) :: renderFields rest

end

/-- A line break and the margin of a level. -/
def newline (level : Nat) : String := "\n".pushn ' ' (2 * level)

/-- Parts between two brackets, each on its own line one level further in. -/
def enclose (opening closing : String) (level : Nat) (parts : List String) : String :=
  if parts.isEmpty then opening ++ closing
  else
    opening ++ newline (level + 1) ++ String.intercalate ("," ++ newline (level + 1)) parts ++
      newline level ++ closing

mutual

/-- The value over several lines, beginning at the given level. -/
def renderAt (level : Nat) : Json → String
  | .arr items => enclose "[" "]" level (renderItemsAt (level + 1) items)
  | .obj fields => enclose "\x7b" "\x7d" level (renderFieldsAt (level + 1) fields)
  | .null => "null"
  | .bool b => scalarText (.bool b)
  | .int n => scalarText (.int n)
  | .float x => scalarText (.float x)
  | .str s => scalarText (.str s)

/-- Several values at a level. -/
def renderItemsAt (level : Nat) : List Json → List String
  | [] => []
  | item :: rest => item.renderAt level :: renderItemsAt level rest

/-- Several fields at a level. -/
def renderFieldsAt (level : Nat) : List (String × Json) → List String
  | [] => []
  | (name, value) :: rest =>
    (quoted name ++ ": " ++ value.renderAt level) :: renderFieldsAt level rest

end

/-- The value over several lines. -/
def renderIndented (value : Json) : String := value.renderAt 0

end Json

/-!
## Taking values apart

Each reader gives a value of a type, or nothing if the structured value is not of that type. A whole
number is read where a floating-point number is expected, never the other way round.

`Json.overlay` lays one value over another: objects are merged field by field, any other value takes
the place of what was there.
-/

namespace Json

/-- A count; it has to fit into 64 bits. -/
def nat? : Json → Option Nat
  | .int n => if 0 ≤ n && n.toNat < naturalLimit then some n.toNat else none
  | _ => none

/-- A number of any kind. -/
def float? : Json → Option Float
  | .int n => some (Float.ofInt n)
  | .float x => some x
  | _ => none

/-- A truth value. -/
def bool? : Json → Option Bool
  | .bool b => some b
  | _ => none

/-- A text. -/
def str? : Json → Option String
  | .str s => some s
  | _ => none

/-- The items of an array, each read by `read`. -/
def list? {α : Type} (read : Json → Option α) : Json → Option (List α)
  | .arr items => items.mapM read
  | _ => none

/-- A value or null. -/
def option? {α : Type} (read : Json → Option α) : Json → Option (Option α)
  | .null => some none
  | value => (read value).map some

/-- The entries of an object, each read by `read`. -/
def table? {α : Type} (read : Json → Option α) : Json → Option (Table String α)
  | .obj fields => (fields.mapM fun (f : String × Json) => (read f.2).map (f.1, ·)).map Table.ofList
  | _ => none

/-- A field of an object, read by `read`. -/
def get? {α : Type} (value : Json) (name : String) (read : Json → Option α) : Option α :=
  (value.field? name).bind read

/-- A field of an object that may be missing. -/
def getOption? {α : Type} (value : Json) (name : String) (read : Json → Option α) :
    Option (Option α) :=
  match value.field? name with
  | none => some none
  | some field => option? read field

/-- An object of some entries. -/
def ofTable {α : Type} (write : α → Json) (t : Table String α) : Json :=
  .obj (t.entries.map fun (name, value) => (name, write value))

/-! ### Overlays -/

/-- Replaces the value of a field, or adds it at the end. -/
def putField (name : String) (value : Json) : List (String × Json) → List (String × Json)
  | [] => [(name, value)]
  | (n, v) :: rest =>
    if n == name then (name, value) :: rest else (n, v) :: putField name value rest

/-- The value of the first field with a name. -/
def lookup (name : String) (fields : List (String × Json)) : Option Json :=
  (fields.find? fun f => f.1 == name).map (·.2)

mutual

/-- Lays `upper` over `lower`. -/
def overlay (lower : Json) : Json → Json
  | .obj upper =>
    match lower with
    | .obj fields => .obj (overlayFields fields upper)
    | _ => .obj upper
  | .null => .null
  | .bool b => .bool b
  | .int n => .int n
  | .float x => .float x
  | .str s => .str s
  | .arr items => .arr items

/-- The fields with others laid over them, one after the other. -/
def overlayFields (fields : List (String × Json)) : List (String × Json) → List (String × Json)
  | [] => fields
  | (name, value) :: rest =>
    let merged :=
      match lookup name fields with
      | some before => overlay before value
      | none => value
    overlayFields (putField name merged fields) rest

end

end Json

/-!
## Reading structured values

`Json.parse?` reads the text of one value. A number without point and exponent that fits into 64
bits is whole, every other one is the nearest floating-point number. Of two fields with one name the
last counts. A text with characters left over, or with half of a surrogate pair, is not accepted.
-/

namespace Json

/-- A character that may stand between the parts of a value. -/
def isSpace (c : Char) : Bool := c = ' ' || c = '\t' || c = '\n' || c = '\r'

/-- What follows the characters between two parts. -/
def skipSpace (s : List Char) : List Char := s.dropWhile isSpace

/-- The value of a hexadecimal digit. -/
def hexValue? (c : Char) : Option Nat :=
  if c.isDigit then some (c.toNat - 48)
  else if 'a' ≤ c && c ≤ 'f' then some (c.toNat - 87)
  else if 'A' ≤ c && c ≤ 'F' then some (c.toNat - 55)
  else none

/-- Four hexadecimal digits. -/
def readHex4 : List Char → Option (Nat × List Char)
  | a :: b :: c :: d :: rest =>
    match hexValue? a, hexValue? b, hexValue? c, hexValue? d with
    | some a, some b, some c, some d => some (4096 * a + 256 * b + 16 * c + d, rest)
    | _, _, _, _ => none
  | _ => none

/-- The character after a backslash and a `u`; two halves of a surrogate pair are one character. -/
def readUnicode (s : List Char) : Option (Char × List Char) :=
  match readHex4 s with
  | none => none
  | some (high, rest) =>
    if 0xD800 ≤ high && high < 0xDC00 then
      match rest with
      | '\\' :: 'u' :: rest =>
        match readHex4 rest with
        | some (low, rest) =>
          if 0xDC00 ≤ low && low < 0xE000 then
            some (Char.ofNat (0x10000 + (high - 0xD800) * 1024 + (low - 0xDC00)), rest)
          else none
        | none => none
      | _ => none
    else if 0xDC00 ≤ high && high < 0xE000 then none
    else some (Char.ofNat high, rest)

/-- The character that a letter behind a backslash stands for. -/
def simpleEscape? : Char → Option Char
  | '"' => some '"'
  | '\\' => some '\\'
  | '/' => some '/'
  | 'b' => some '\x08'
  | 'f' => some '\x0c'
  | 'n' => some '\n'
  | 'r' => some '\r'
  | 't' => some '\t'
  | _ => none

/-- Reads the rest of a quoted text; `text` is what was read, backwards. -/
def readString : Nat → List Char → List Char → Option (String × List Char)
  | 0, _, _ => none
  | fuel + 1, text, s =>
    match s with
    | '"' :: rest => some (String.ofList text.reverse, rest)
    | '\\' :: 'u' :: rest =>
      match readUnicode rest with
      | some (c, rest) => readString fuel (c :: text) rest
      | none => none
    | '\\' :: c :: rest =>
      match simpleEscape? c with
      | some c => readString fuel (c :: text) rest
      | none => none
    | c :: rest => if c.toNat < 32 then none else readString fuel (c :: text) rest
    | [] => none

/-- The number that decimal digits stand for. -/
def digitsValue (digits : List Char) : Nat :=
  digits.foldl (fun n c => 10 * n + (c.toNat - 48)) 0

/-- The nearest floating-point number to `mantissa · 10 ^ exponent`. -/
def nearestFloat (negative : Bool) (mantissa : Nat) (exponent : Int) : Float :=
  let size := (toString mantissa).length
  let x : Float :=
    if mantissa = 0 || exponent + size < -400 then 0
    else if 400 < exponent + size then 1.0 / 0.0
    else if exponent < 0 then Float.ofScientific mantissa true exponent.natAbs
    else Float.ofScientific mantissa false exponent.natAbs
  if negative then -x else x

/-- Reads an exponent after its letter. -/
def readExponent (s : List Char) : Option (Int × List Char) :=
  let (negative, rest) :=
    match s with
    | '-' :: rest => (true, rest)
    | '+' :: rest => (false, rest)
    | rest => (false, rest)
  let digits := rest.takeWhile Char.isDigit
  if digits.isEmpty then none
  else
    let n : Int := digitsValue digits
    some (if negative then -n else n, rest.dropWhile Char.isDigit)

/-- The value of a number with a point or an exponent; one that is too large has none. -/
def ofDecimal? (negative : Bool) (mantissa : Nat) (exponent : Int) : Option Json :=
  let x := nearestFloat negative mantissa exponent
  if x.isFinite then some (.float x) else none

/-- The value of a number of digits only: a whole number, unless it does not fit into 64 bits or is
a negative zero. -/
def ofDigits? (negative : Bool) (digits : List Char) : Option Json :=
  let n := digitsValue digits
  let fits := if negative then 0 < n && n ≤ integerLimit else n < naturalLimit
  if !fits then ofDecimal? negative n 0
  else if negative then some (.int (-n))
  else some (.int n)

/-- Reads a number. -/
def readNumber (s : List Char) : Option (Json × List Char) :=
  let (negative, rest) :=
    match s with
    | '-' :: rest => (true, rest)
    | rest => (false, rest)
  let whole := rest.takeWhile Char.isDigit
  let rest := rest.dropWhile Char.isDigit
  if whole.isEmpty || (whole.head? == some '0' && whole.length != 1) then none
  else
    let fraction? : Option (List Char × List Char) :=
      match rest with
      | '.' :: rest =>
        let digits := rest.takeWhile Char.isDigit
        if digits.isEmpty then none else some (digits, rest.dropWhile Char.isDigit)
      | rest => some ([], rest)
    match fraction? with
    | none => none
    | some (fraction, rest) =>
      let value? (exponent : Int) : Option Json :=
        ofDecimal? negative (digitsValue (whole ++ fraction)) (exponent - fraction.length)
      match rest with
      | 'e' :: rest | 'E' :: rest =>
        (readExponent rest).bind fun (exponent, rest) => (value? exponent).map (·, rest)
      | rest =>
        let value? := if fraction.isEmpty then ofDigits? negative whole else value? 0
        value?.map (·, rest)

/-- Puts a field at the end of an object; one with the same name gives way. -/
def setField (fields : List (String × Json)) (name : String) (value : Json) :
    List (String × Json) :=
  fields.filter (fun f => f.1 != name) ++ [(name, value)]

/-- The rest of a text after a word at its beginning. -/
def afterWord? (word : String) (s : List Char) : Option (List Char) :=
  if startsWith s word then some (s.drop word.length) else none
where
  startsWith (s : List Char) (word : String) : Bool := word.toList.isPrefixOf s

mutual

/-- Reads a value. -/
def readValue : Nat → List Char → Option (Json × List Char)
  | 0, _ => none
  | fuel + 1, s =>
    let s := skipSpace s
    match s with
    | '"' :: rest => (readString (rest.length + 1) [] rest).map fun (t, rest) => (.str t, rest)
    | '[' :: rest =>
      match skipSpace rest with
      | ']' :: rest => some (.arr [], rest)
      | rest => readItems fuel [] rest
    | '\x7b' :: rest =>
      match skipSpace rest with
      | '\x7d' :: rest => some (.obj [], rest)
      | rest => readMembers fuel [] rest
    | c :: _ =>
      if c = '-' || c.isDigit then readNumber s
      else
        match afterWord? "null" s, afterWord? "true" s, afterWord? "false" s with
        | some rest, _, _ => some (.null, rest)
        | _, some rest, _ => some (.bool true, rest)
        | _, _, some rest => some (.bool false, rest)
        | _, _, _ => none
    | [] => none

/-- Reads the items of an array up to its end; those read so far are given backwards. -/
def readItems : Nat → List Json → List Char → Option (Json × List Char)
  | 0, _, _ => none
  | fuel + 1, items, s =>
    match readValue fuel s with
    | none => none
    | some (item, rest) =>
      match skipSpace rest with
      | ',' :: rest => readItems fuel (item :: items) rest
      | ']' :: rest => some (.arr (item :: items).reverse, rest)
      | _ => none

/-- Reads the fields of an object up to its end. -/
def readMembers : Nat → List (String × Json) → List Char → Option (Json × List Char)
  | 0, _, _ => none
  | fuel + 1, fields, s =>
    match skipSpace s with
    | '"' :: rest =>
      match readString (rest.length + 1) [] rest with
      | none => none
      | some (name, rest) =>
        match skipSpace rest with
        | ':' :: rest =>
          match readValue fuel rest with
          | none => none
          | some (value, rest) =>
            let fields := setField fields name value
            match skipSpace rest with
            | ',' :: rest => readMembers fuel fields rest
            | '\x7d' :: rest => some (.obj fields, rest)
            | _ => none
        | _ => none
    | _ => none

end

/-- The value that a text denotes. -/
def parse? (s : String) : Option Json :=
  let chars := s.toList
  match readValue (2 * chars.length + 2) chars with
  | some (value, rest) => if (skipSpace rest).isEmpty then some value else none
  | none => none

end Json

end Affinity
