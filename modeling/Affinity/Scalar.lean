/-!
# Scalars

Scores, weights and factors are computed over any type of `Scalar`s: over floating-point numbers
when the program runs, over the rational or real numbers where one reasons about the formulas.

Floating-point numbers have a value that is not a number, the one that is not at most itself.
`least` and `greatest` pass it over, `clamp` keeps it, and `isFinite` tells it and the infinities
from the others.
-/

namespace Affinity

/-- A type of numbers with the operations that the formulas use. -/
class Scalar (K : Type)
    extends Add K, Sub K, Mul K, Div K, NatCast K, OfScientific K, LT K, LE K where
  decidableLT : DecidableLT K
  decidableLE : DecidableLE K
  /-- The square root. -/
  sqrt : K → K

namespace Scalar

instance {K : Type} [Scalar K] : DecidableLT K := decidableLT

instance {K : Type} [Scalar K] : DecidableLE K := decidableLE

instance : Scalar Float where
  natCast := Float.ofNat
  decidableLT := inferInstance
  decidableLE := inferInstance
  sqrt := Float.sqrt

variable {K : Type} [Scalar K]

/-- The value is a number. -/
def isNumber (x : K) : Bool := x ≤ x

/-- The value is a number and not infinite. -/
def isFinite (x : K) : Bool := x - x ≤ x - x

/-- The greater of two numbers; of a number and a value that is none, the number. -/
def greatest (a b : K) : K :=
  if a < b then b else if a ≤ a then a else b

/-- The lesser of two numbers; of a number and a value that is none, the number. -/
def least (a b : K) : K :=
  if b < a then b else if a ≤ a then a else b

/-- The number between two bounds that is nearest to the given one. -/
def clamp (low high x : K) : K :=
  if x < low then low else if high < x then high else x

/-- The distance of a number from zero. -/
def magnitude (x : K) : K := if x < 0.0 then 0.0 - x else x

/-- A number times itself. -/
def square (x : K) : K := x * x

/-- The sum of some numbers, added from left to right. -/
def sum : List K → K
  | [] => 0.0
  | x :: rest => rest.foldl (· + ·) x

/-- The quotient of two counts; zero if there is nothing to divide by. -/
def ratio (part whole : Nat) : K :=
  if whole = 0 then 0.0 else (part : K) / (whole : K)

end Scalar

end Affinity
