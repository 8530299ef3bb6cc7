/-!
# Double precision numbers

A `Binary64` is a number of the double precision format, kept as sign, significand and exponent,
so that every operation is computed on exact rationals and rounded once. Nothing here goes through
machine arithmetic: comparisons are comparisons of rationals.

* `ofRatio`, `ofRat` and `ofInt?` round to the nearest number, a tie to the even significand.
* `toRat` is the exact value of a finite number.
* `add`, `sub`, `mul`, `div`, `lt`, `le` and `eq` are the operations of the format.
* `floor?` and `truncate?` lead to integers, and say why they cannot.
-/

namespace StaticSite

/-- A number of the double precision format. A finite number is `± significand * 2 ^ exponent`. -/
inductive Binary64 where
  | nan
  | infinite (negative : Bool)
  | finite (negative : Bool) (significand : Nat) (exponent : Int)
deriving DecidableEq, Repr, Inhabited

/-- Why a number has no integer next to it. -/
inductive IntegerError where
  | ofNan
  | ofInfinity
deriving DecidableEq, Repr

namespace Binary64

/-- The exponent of the last place of the smallest numbers. -/
def leastExponent : Int := -1074

/-- The exponent of the last place of the largest numbers. -/
def greatestExponent : Int := 971

/-- Zero with a sign. -/
def zero (negative : Bool) : Binary64 := .finite negative 0 leastExponent

/-- A quotient of natural numbers in units of `2 ^ e`, again as a quotient. -/
def inUnits (num den : Nat) (e : Int) : Nat × Nat :=
  if 0 ≤ e then (num, den * Nat.pow 2 e.toNat) else (num * Nat.pow 2 (-e).toNat, den)

/-- The quotient of two natural numbers, rounded to the nearest, a tie to the even one. -/
def divEven (num den : Nat) : Nat :=
  let q := num / den
  let r := num % den
  if 2 * r < den then q else if den < 2 * r then q + 1 else q + q % 2

/-- The exponent at which a positive quotient has a significand of 53 bits, or the least one. -/
def exponentOf (num den : Nat) : Int :=
  let e : Int := (Nat.log2 num : Int) - (Nat.log2 den : Int) - 52
  let (n, d) := inUnits num den e
  let e := if n < d * Nat.pow 2 52 then e - 1 else e
  max e leastExponent

/-- The number nearest to `± num / den`; beyond the largest one it is infinite. -/
def ofRatio (negative : Bool) (num den : Nat) : Binary64 :=
  if num = 0 then zero negative
  else
    let e := exponentOf num den
    let (n, d) := inUnits num den e
    let m := divEven n d
    let (m, e) := if m = Nat.pow 2 53 then (Nat.pow 2 52, e + 1) else (m, e)
    if greatestExponent < e then .infinite negative else .finite negative m e

/-- The number nearest to a rational; zero is positive. -/
def ofRat (q : Rat) : Binary64 := ofRatio (decide (q < 0)) q.num.natAbs q.den

/-- The number nearest to an integer, unless it is too large. -/
def ofInt? (i : Int) : Option Binary64 :=
  match ofRatio (decide (i < 0)) i.natAbs 1 with
  | .finite s m e => some (.finite s m e)
  | _ => none

/-- The number nearest to a natural number that is known to be small. -/
def ofNat (n : Nat) : Binary64 := ofRatio false n 1

/-- The exact value of a finite number, and zero for the others. -/
def toRat : Binary64 → Rat
  | .finite s m e =>
    let q : Rat :=
      if 0 ≤ e then ((m * Nat.pow 2 e.toNat : Nat) : Rat) else mkRat m (Nat.pow 2 (-e).toNat)
    if s then -q else q
  | _ => 0

/-- Whether a number is finite. -/
def isFinite : Binary64 → Bool
  | .finite .. => true
  | _ => false

/-- Whether a number is not a number. -/
def isNan : Binary64 → Bool
  | .nan => true
  | _ => false

/-- Whether the sign of a number is negative; zero has a sign too. -/
def isNegative : Binary64 → Bool
  | .nan => false
  | .infinite s => s
  | .finite s _ _ => s

/-- Whether a number is a zero of either sign. -/
def isZero : Binary64 → Bool
  | .finite _ m _ => m == 0
  | _ => false

/-- Whether a number is a finite integer. -/
def isInteger (x : Binary64) : Bool := x.isFinite && x.toRat.den == 1

/-- The number with the other sign. -/
def neg : Binary64 → Binary64
  | .nan => .nan
  | .infinite s => .infinite (!s)
  | .finite s m e => .finite (!s) m e

/-- The number without its sign. -/
def abs : Binary64 → Binary64
  | .nan => .nan
  | .infinite _ => .infinite false
  | .finite _ m e => .finite false m e

/-- The sum; an exact zero is negative only if both terms are. -/
def add : Binary64 → Binary64 → Binary64
  | .nan, _ => .nan
  | _, .nan => .nan
  | .infinite a, .infinite b => if a == b then .infinite a else .nan
  | .infinite a, _ => .infinite a
  | _, .infinite b => .infinite b
  | x, y =>
    let q := x.toRat + y.toRat
    if q = 0 then zero (x.isNegative && y.isNegative) else ofRat q

/-- The difference. -/
def sub (x y : Binary64) : Binary64 := add x y.neg

/-- The product. -/
def mul : Binary64 → Binary64 → Binary64
  | .nan, _ => .nan
  | _, .nan => .nan
  | .infinite a, y => if y.isZero then .nan else .infinite (a != y.isNegative)
  | x, .infinite b => if x.isZero then .nan else .infinite (x.isNegative != b)
  | x, y =>
    let q := x.toRat * y.toRat
    ofRatio (x.isNegative != y.isNegative) q.num.natAbs q.den

/-- The quotient; a number that is not zero divided by zero is infinite. -/
def div : Binary64 → Binary64 → Binary64
  | .nan, _ => .nan
  | _, .nan => .nan
  | .infinite _, .infinite _ => .nan
  | .infinite a, y => .infinite (a != y.isNegative)
  | x, .infinite b => zero (x.isNegative != b)
  | x, y =>
    let s := x.isNegative != y.isNegative
    if y.isZero then (if x.isZero then .nan else .infinite s)
    else
      let q := x.toRat / y.toRat
      ofRatio s q.num.natAbs q.den

instance : Add Binary64 := ⟨add⟩
instance : Sub Binary64 := ⟨sub⟩
instance : Mul Binary64 := ⟨mul⟩
instance : Div Binary64 := ⟨div⟩
instance : Neg Binary64 := ⟨neg⟩

/-- Whether the first number is less than the second; never when one is not a number. -/
def lt : Binary64 → Binary64 → Bool
  | .nan, _ => false
  | _, .nan => false
  | .infinite a, .infinite b => a && !b
  | .infinite a, _ => a
  | _, .infinite b => !b
  | x, y => decide (x.toRat < y.toRat)

instance : LT Binary64 := ⟨fun x y => lt x y = true⟩

instance : DecidableLT Binary64 := fun x y => inferInstanceAs (Decidable (lt x y = true))

/-- Whether two numbers have one value; never when one is not a number. -/
def eq : Binary64 → Binary64 → Bool
  | .nan, _ => false
  | _, .nan => false
  | .infinite a, .infinite b => a == b
  | .infinite _, _ => false
  | _, .infinite _ => false
  | x, y => decide (x.toRat = y.toRat)

/-- Whether the first number is at most the second; never when one is not a number. -/
def le (x y : Binary64) : Bool := lt x y || eq x y

/-- The greatest integer that is not above a number. -/
def floor? : Binary64 → Except IntegerError Int
  | .nan => .error .ofNan
  | .infinite _ => .error .ofInfinity
  | x => .ok x.toRat.floor

/-- The integer part of a number. -/
def truncate? : Binary64 → Except IntegerError Int
  | .nan => .error .ofNan
  | .infinite _ => .error .ofInfinity
  | x => .ok (x.toRat.num.tdiv x.toRat.den)

end Binary64
end StaticSite
