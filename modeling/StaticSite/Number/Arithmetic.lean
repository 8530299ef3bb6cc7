import StaticSite.Number.Binary64

/-!
# Arithmetic of scores and prices

Scores and average prices are computed by a few operations. `Arithmetic` names them, so that the
same computation can be carried out on double precision numbers, as pages are made, and on exact
ones, whose results are not rounded.

* `Exact` are the exact numbers: rationals, the two infinities, and what is not a number.
* `roundHalfUp` is the nearest integer, a half going up.
* `clamp` bounds a number by zero and a hundred.
-/

namespace StaticSite

/-- The operations that scores and prices are computed with. -/
class Arithmetic (α : Type) where
  /-- A double precision number as a number of this kind. -/
  ofBinary64 : Binary64 → α
  /-- A small natural number. -/
  ofNat : Nat → α
  add : α → α → α
  mul : α → α → α
  div : α → α → α
  /-- Whether the first number is less than the second. -/
  lt : α → α → Bool
  /-- Whether a number is neither infinite nor not a number. -/
  isFinite : α → Bool
  /-- The greatest integer that is not above a number. -/
  floor? : α → Except IntegerError Int

/-! ### Exact numbers -/

/-- A number that is not rounded: a rational, an infinity, or what is not a number. -/
inductive Exact where
  | nan
  | infinite (negative : Bool)
  | rational (q : Rat)
deriving DecidableEq, Repr

namespace Exact

/-- The exact value of a double precision number. -/
def ofBinary64 : Binary64 → Exact
  | .nan => .nan
  | .infinite s => .infinite s
  | .finite s m e => .rational (Binary64.finite s m e).toRat

/-- The sum; infinities of different signs have none. -/
def add : Exact → Exact → Exact
  | .nan, _ => .nan
  | _, .nan => .nan
  | .infinite a, .infinite b => if a == b then .infinite a else .nan
  | .infinite a, .rational _ => .infinite a
  | .rational _, .infinite b => .infinite b
  | .rational p, .rational q => .rational (p + q)

/-- The product; zero and an infinity have none. -/
def mul : Exact → Exact → Exact
  | .nan, _ => .nan
  | _, .nan => .nan
  | .infinite a, .infinite b => .infinite (a != b)
  | .infinite a, .rational q => if q = 0 then .nan else .infinite (a != decide (q < 0))
  | .rational p, .infinite b => if p = 0 then .nan else .infinite (decide (p < 0) != b)
  | .rational p, .rational q => .rational (p * q)

/-- The quotient; a number other than zero divided by zero is infinite, with the sign of the
number. -/
def div : Exact → Exact → Exact
  | .nan, _ => .nan
  | _, .nan => .nan
  | .infinite _, .infinite _ => .nan
  | .infinite a, .rational q => .infinite (a != decide (q < 0))
  | .rational _, .infinite _ => .rational 0
  | .rational p, .rational q =>
    if q ≠ 0 then .rational (p / q)
    else if p = 0 then .nan
    else .infinite (decide (p < 0))

/-- Whether the first number is less than the second; never when one is not a number. -/
def lt : Exact → Exact → Bool
  | .nan, _ => false
  | _, .nan => false
  | .infinite a, .infinite b => a && !b
  | .infinite a, .rational _ => a
  | .rational _, .infinite b => !b
  | .rational p, .rational q => decide (p < q)

/-- Whether a number is a rational. -/
def isFinite : Exact → Bool
  | .rational _ => true
  | _ => false

/-- The greatest integer that is not above a number. -/
def floor? : Exact → Except IntegerError Int
  | .nan => .error .ofNan
  | .infinite _ => .error .ofInfinity
  | .rational q => .ok q.floor

end Exact

namespace Arithmetic

instance : Arithmetic Binary64 where
  ofBinary64 x := x
  ofNat := Binary64.ofNat
  add := Binary64.add
  mul := Binary64.mul
  div := Binary64.div
  lt := Binary64.lt
  isFinite := Binary64.isFinite
  floor? := Binary64.floor?

instance : Arithmetic Exact where
  ofBinary64 := Exact.ofBinary64
  ofNat n := .rational n
  add := Exact.add
  mul := Exact.mul
  div := Exact.div
  lt := Exact.lt
  isFinite := Exact.isFinite
  floor? := Exact.floor?

variable {α : Type} [Arithmetic α]

/-- The nearest integer; a half goes up. -/
def roundHalfUp (x : α) : Except IntegerError Int :=
  floor? (add x (div (ofNat 1) (ofNat 2)))

/-- The sum of numbers, from the left. -/
def sum (xs : List α) : α := xs.foldl add (ofNat 0)

/-- The mean of numbers. -/
def mean (xs : List α) : α := div (sum xs) (ofNat xs.length)

/-- The number of the range from 0 to 100 that is nearest to a number. -/
def clamp (x : α) : α :=
  let low := if lt x (ofNat 100) then x else ofNat 100
  if lt (ofNat 0) low then low else ofNat 0

end Arithmetic
end StaticSite
