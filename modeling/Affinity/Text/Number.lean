import Affinity.Json
import Affinity.Text.Lines

/-!
# Numbers in settings and arguments

* `natural?` — digits, perhaps after a plus sign, for a number below 2 to the 64.
* `integer?` — digits, perhaps after a sign, for a number that fits into 64 bits.
* `decimal?` — digits with or without a point and an exponent, or the name of a value that is no
  finite number.
-/

namespace Affinity

/-- A sign at the beginning, and what follows: whether it is negative. -/
def splitSign : List Char → Bool × List Char
  | '-' :: rest => (true, rest)
  | '+' :: rest => (false, rest)
  | rest => (false, rest)

/-- The text is a number of digits and nothing else. -/
def allDigits (s : List Char) : Bool := !s.isEmpty && s.all Char.isDigit

/-- A number below 2 to the 64. -/
def natural? (s : List Char) : Option Nat :=
  let digits := match s with
    | '+' :: rest => rest
    | rest => rest
  if allDigits digits && Json.digitsValue digits < naturalLimit then some (Json.digitsValue digits)
  else none

/-- A number from -2 to the 63 up to below 2 to the 63. -/
def integer? (s : List Char) : Option Int :=
  let (negative, digits) := splitSign s
  let n := Json.digitsValue digits
  if !allDigits digits then none
  else if negative then (if n ≤ integerLimit then some (-n) else none)
  else if n < integerLimit then some n
  else none

/-- A value that is no finite number, by its name in any letter case. -/
def namedFloat? (s : List Char) : Option Float :=
  let name := String.ofList (s.map Char.toLower)
  if name = "inf" || name = "infinity" then some (1.0 / 0.0)
  else if name = "nan" then some (0.0 / 0.0)
  else none

/-- The exponent at the end of a number; zero if nothing is there. -/
def exponent? : List Char → Option Int
  | [] => some 0
  | e :: rest =>
    if e = 'e' || e = 'E' then
      let (negative, digits) := splitSign rest
      if allDigits digits then
        some (if negative then -(Json.digitsValue digits : Int) else Json.digitsValue digits)
      else none
    else none

/-- The floating-point number nearest to a decimal, or a named value. -/
def decimal? (s : List Char) : Option Float :=
  let (negative, rest) := splitSign s
  match namedFloat? rest with
  | some x => some (if negative then -x else x)
  | none =>
    let whole := rest.takeWhile Char.isDigit
    let after := rest.dropWhile Char.isDigit
    let (fraction, after) :=
      match after with
      | '.' :: more => (more.takeWhile Char.isDigit, more.dropWhile Char.isDigit)
      | _ => ([], after)
    if whole.isEmpty && fraction.isEmpty then none
    else
      (exponent? after).map fun e =>
        Json.nearestFloat negative (Json.digitsValue (whole ++ fraction)) (e - fraction.length)

end Affinity
