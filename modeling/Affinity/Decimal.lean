/-!
# Decimals

* `Decimal.ofFloat?` — the shortest decimal that reads back as a floating-point number.
* `Layout` — how numbers are written.
-/

namespace Affinity

/-!
## The shortest decimal that reads back

`Decimal.ofFloat?` gives for a finite floating-point number the decimal with the fewest digits among
those that are nearer to it than to any other floating-point number; of several with that many
digits, the one nearest to it.
-/

/-- A decimal number: `digits · 10 ^ exponent`, negated if `negative`. -/
structure Decimal where
  negative : Bool := false
  digits : Nat
  exponent : Int
  deriving DecidableEq, Repr

/-- The sign of a floating-point number is negative, that of a zero included. -/
def isNegative (x : Float) : Bool := x.toBits.toNat / Nat.pow 2 63 = 1

/-- The exact value of a finite number without its sign: `mantissa · 2 ^ exponent`. -/
structure Binary where
  mantissa : Nat
  exponent : Int
  /-- The next number below is only half as far away as the next above. -/
  lowerHalf : Bool
  deriving DecidableEq, Repr

namespace Binary

/-- The value of a finite floating-point number without its sign. -/
def ofFloat (x : Float) : Binary :=
  let bits := x.toBits.toNat
  let unit := Nat.pow 2 52
  let fraction : Nat := bits % unit
  let biased : Nat := bits / unit % 2048
  if biased = 0 then ⟨fraction, -1074, false⟩
  else ⟨fraction + unit, (biased : Int) - 1075, fraction = 0 && biased ≠ 1⟩

/-- The quotient of two natural numbers that equals `factor · 2 ^ exponent / 10 ^ power`. -/
def scaled (factor : Nat) (exponent power : Int) : Nat × Nat :=
  (factor * Nat.pow 2 exponent.toNat * Nat.pow 10 (-power).toNat,
    Nat.pow 2 (-exponent).toNat * Nat.pow 10 power.toNat)

/-- Whether `digits · 10 ^ power` is nearer to the number than to its neighbours. On the border both
are equally near, and the number with an even mantissa is meant. -/
def isReadFrom (b : Binary) (digits : Nat) (power : Int) : Bool :=
  let (above, den) := scaled (4 * b.mantissa + 2) (b.exponent - 2) power
  let (below, _) := scaled (4 * b.mantissa - (if b.lowerHalf then 1 else 2)) (b.exponent - 2) power
  let value := digits * den
  if b.mantissa % 2 = 0 then below ≤ value && value ≤ above
  else below < value && value < above

/-- The power of ten of the leading digit. -/
def leadingPower (b : Binary) : Int :=
  let guess : Int := ((Nat.log2 b.mantissa : Int) + b.exponent) * 30103 / 100000
  let reaches (power : Int) : Bool :=
    let (num, den) := scaled b.mantissa b.exponent power
    den ≤ num
  if reaches (guess + 1) then guess + 1
  else if reaches guess then guess
  else guess - 1

/-- The nearest number on the grid of the multiples of `10 ^ power`, if it reads back. -/
def onGrid? (b : Binary) (power : Int) : Option Nat :=
  let (num, den) := scaled b.mantissa b.exponent power
  let below := num / den
  let distance := num % den
  let nearLow := b.isReadFrom below power
  let nearHigh := b.isReadFrom (below + 1) power
  let high := if 2 * distance = den then below % 2 = 1 else den < 2 * distance
  if nearLow && nearHigh then some (if high then below + 1 else below)
  else if nearLow then some below
  else if nearHigh then some (below + 1)
  else none

/-- The first of the next `n` grids, each ten times finer, with a number that reads back. -/
def firstGrid (b : Binary) : Nat → Int → Nat × Int
  | 0, power => ((b.onGrid? power).getD 0, power)
  | n + 1, power =>
    match b.onGrid? power with
    | some digits => (digits, power)
    | none => firstGrid b n (power - 1)

end Binary

namespace Decimal

/-- The same number without zeros at the end of its digits. -/
def normalize (d : Decimal) : Nat → Decimal
  | 0 => d
  | n + 1 =>
    if d.digits ≠ 0 && d.digits % 10 = 0 then
      normalize { d with digits := d.digits / 10, exponent := d.exponent + 1 } n
    else d

/-- The shortest decimal that reads back as the number; there is none for what is not finite. -/
def ofFloat? (x : Float) : Option Decimal :=
  if !x.isFinite then none
  else
    let negative := isNegative x
    let b := Binary.ofFloat x
    if b.mantissa = 0 then some { negative, digits := 0, exponent := 0 }
    else
      let (digits, exponent) := b.firstGrid 17 b.leadingPower
      some ({ negative, digits, exponent : Decimal }.normalize 20)

end Decimal

/-!
## How numbers are written

* `Layout.structured` — numbers of structured reports: as many digits as needed, always with a point
  or an exponent.
* `Layout.plain` — numbers in messages: never an exponent, and no point without digits behind it.
* `fixed` — a number with a fixed count of places, rounded to the nearest; a tie goes to the even
  digit.
-/

/-- A way to write the shortest decimal of a number. -/
structure Layout where
  /-- Numbers whose leading digit has a power of ten from `least` to `greatest` are written without
  an exponent; without such bounds all are. -/
  bounds : Option (Int × Int)
  /-- Whole numbers written without an exponent get `.0`. -/
  keepPoint : Bool
  deriving Repr

namespace Layout

/-- The layout of structured reports. -/
def structured : Layout := ⟨some (-5, 15), true⟩

/-- The layout of messages. -/
def plain : Layout := ⟨none, false⟩

/-- The digits without an exponent. -/
def positional (keepPoint : Bool) (digits : String) (exponent : Int) : String :=
  if 0 ≤ exponent then
    digits ++ "".pushn '0' exponent.toNat ++ (if keepPoint then ".0" else "")
  else
    let places := (-exponent).toNat
    let padded := "".pushn '0' (places + 1 - digits.length) ++ digits
    let whole := padded.toList.take (padded.length - places)
    let part := padded.toList.drop (padded.length - places)
    String.ofList (whole ++ '.' :: part)

/-- The digits with an exponent. -/
def scientific (digits : String) (power : Int) : String :=
  let mantissa :=
    match digits.toList with
    | first :: second :: rest => String.ofList (first :: '.' :: second :: rest)
    | _ => digits
  mantissa ++ (if power < 0 then "e-" else "e+") ++ toString power.natAbs

/-- Writes a decimal. -/
def write (layout : Layout) (d : Decimal) : String :=
  let digits := toString d.digits
  let power := d.exponent + (digits.length - 1 : Nat)
  let isPositional :=
    match layout.bounds with
    | none => true
    | some (least, greatest) => d.digits = 0 || (least ≤ power && power ≤ greatest)
  (if d.negative then "-" else "") ++
    (if isPositional then positional layout.keepPoint digits d.exponent
     else scientific digits power)

end Layout

/-- What stands for a number that is not finite. -/
def notFinite (x : Float) : String :=
  if x.isNaN then "NaN" else if x < 0 then "-inf" else "inf"

/-- A number in a message. -/
def plainText (x : Float) : String :=
  match Decimal.ofFloat? x with
  | some d => Layout.plain.write d
  | none => notFinite x

/-- The whole number nearest to a quotient; a tie goes to the even one. -/
def roundQuotient (num den : Nat) : Nat :=
  let below := num / den
  let twice := 2 * (num % den)
  if twice < den then below
  else if den < twice then below + 1
  else if below % 2 = 0 then below
  else below + 1

/-- The number with the given count of places after the point. -/
def fixed (places : Nat) (x : Float) : String :=
  if !x.isFinite then notFinite x
  else
    let b := Binary.ofFloat x
    let (num, den) := Binary.scaled b.mantissa b.exponent (-places)
    let digits := toString (roundQuotient num den)
    (if isNegative x then "-" else "") ++
      Layout.positional false digits (-places)

end Affinity
