import StaticSite.Number.Binary64

/-!
# Numbers as text

* `Binary64.text` writes the shortest digits that read back: in positional notation when the
  leading digit stands for a power of ten from -4 to 15, otherwise with an exponent of at least two
  digits. A point is always written in positional notation.
* `Binary64.plainText` writes an integer value without a point and all other values by `text`.
* `Binary64.roundedText` writes a number to the nearest integer, a tie to the even one, in groups
  of three digits.
* `Numeral.text` writes a number of a payload.
-/

namespace StaticSite

/-!
## Shortest decimal digits

`shortest` gives, for a positive double precision number, the decimal with the fewest digits that
reads back as the same number, and of those the nearest. The reals that read back as
`m * 2 ^ e` form an interval reaching half a unit to both sides, a quarter of a unit below the
smallest significand; its ends belong to it exactly when `m` is even. For one digit, two digits and
so on the two neighbours of the number on that decimal grid are tried.
-/

namespace Binary64

/-- The quotient `a / b` is at most `c / d`. -/
def ratioLe (a b c d : Nat) : Bool := a * d ≤ c * b

/-- The quotient `n * 10 ^ k`, as a pair of natural numbers. -/
def scaledTen (n : Nat) (k : Int) : Nat × Nat :=
  if 0 ≤ k then (n * Nat.pow 10 k.toNat, 1) else (n, Nat.pow 10 (-k).toNat)

/-- The quotient `n * 2 ^ e`, as a pair of natural numbers. -/
def scaledTwo (n : Nat) (e : Int) : Nat × Nat :=
  if 0 ≤ e then (n * Nat.pow 2 e.toNat, 1) else (n, Nat.pow 2 (-e).toNat)

/-- The exponent `k` with `10 ^ k ≤ n / d < 10 ^ (k + 1)`, for a positive quotient. -/
def decimalExponent (n d : Nat) : Int :=
  let guess : Int := ((Nat.log2 n : Int) - (Nat.log2 d : Int)) * 30103 / 100000
  let atLeast (k : Int) : Bool := let (a, b) := scaledTen 1 k; ratioLe a b n d
  if !atLeast guess then guess - 1
  else if atLeast (guess + 2) then guess + 2
  else if atLeast (guess + 1) then guess + 1
  else guess

/-- The interval of reals that read back as a number. -/
structure Neighbourhood where
  low : Nat × Nat
  high : Nat × Nat
  closed : Bool

/-- The interval of reals that read back as `m * 2 ^ e`. -/
def neighbourhood (m : Nat) (e : Int) : Neighbourhood where
  low := scaledTwo (if m = Nat.pow 2 52 ∧ leastExponent < e then 4 * m - 1 else 4 * m - 2) (e - 2)
  high := scaledTwo (4 * m + 2) (e - 2)
  closed := m % 2 == 0

/-- Whether a quotient lies in an interval. -/
def Neighbourhood.contains (h : Neighbourhood) (q : Nat × Nat) : Bool :=
  if h.closed then ratioLe h.low.1 h.low.2 q.1 q.2 && ratioLe q.1 q.2 h.high.1 h.high.2
  else !ratioLe q.1 q.2 h.low.1 h.low.2 && !ratioLe h.high.1 h.high.2 q.1 q.2

/-- The better of the two neighbours of `n / d` on the grid of multiples of `10 ^ k`, if one lies
in the interval. -/
def gridPoint (h : Neighbourhood) (n d : Nat) (k : Int) : Option Nat :=
  let (a, b) := scaledTen 1 k
  let num := n * b
  let den := d * a
  let q := num / den
  let below := h.contains (scaledTen q k) && q != 0
  let above := h.contains (scaledTen (q + 1) k)
  let r := num % den
  -- The nearer one of two, and halfway between them the even one.
  if below && above then some (if 2 * r < den || (2 * r == den && q % 2 == 0) then q else q + 1)
  else if below then some q
  else if above then some (q + 1)
  else none

/-- Tries finer and finer grids, `fuel` of them. -/
def searchGrids (h : Neighbourhood) (n d : Nat) : Nat → Int → Nat × Int
  | 0, k => (n / d, k)
  | fuel + 1, k =>
    match gridPoint h n d k with
    | some q => (q, k)
    | none => searchGrids h n d fuel (k - 1)

/-- Moves the zeros at the end of a positive number into the power of ten. -/
def dropZeros : Nat → Nat → Int → Nat × Int
  | 0, n, k => (n, k)
  | fuel + 1, n, k => if n % 10 = 0 then dropZeros fuel (n / 10) (k + 1) else (n, k)

/-- The shortest decimal `q * 10 ^ k` that reads back as the positive number `m * 2 ^ e`. Seventeen
digits always suffice. -/
def shortest (m : Nat) (e : Int) : Nat × Int :=
  let (n, d) := scaledTwo m e
  let (q, k) := searchGrids (neighbourhood m e) n d 17 (decimalExponent n d)
  dropZeros 20 q k

end Binary64

/-! ## The text of a number -/

/-- How a double precision number is written. -/
structure NumberStyle where
  /-- The least power of ten whose numbers are written in positional notation. -/
  leastPositional : Int
  /-- The least power of ten whose numbers are again written with an exponent. -/
  leastScientific : Int
  /-- The least count of digits of a written exponent. -/
  exponentWidth : Nat
  /-- The texts of the numbers that are not finite. -/
  nanText : String
  infinityText : String

/-- Numbers read back from their shortest digits, positional from 10⁻⁴ up to 10¹⁶. -/
def NumberStyle.plain : NumberStyle := ⟨-4, 16, 2, "nan", "inf"⟩

/-- Numbers inside JSON texts. -/
def NumberStyle.json : NumberStyle := ⟨-4, 16, 2, "NaN", "Infinity"⟩

namespace Binary64

/-- A list of zeros. -/
def zeros (n : Nat) : List Char := List.replicate n '0'

/-- Pads digits with zeros on the left. -/
def padZeros (width : Nat) (ds : List Char) : List Char := zeros (width - ds.length) ++ ds

/-- The text of the positive number `0.d₁d₂… * 10 ^ point`. -/
def digitsText (style : NumberStyle) (ds : List Char) (point : Int) : List Char :=
  let lead := point - 1
  if style.leastPositional ≤ lead ∧ lead < style.leastScientific then
    if point ≤ 0 then '0' :: '.' :: zeros (-point).toNat ++ ds
    else if ds.length ≤ point.toNat then ds ++ zeros (point.toNat - ds.length) ++ ['.', '0']
    else ds.take point.toNat ++ '.' :: ds.drop point.toNat
  else
    let part := match ds with
      | [] => []
      | [d] => [d]
      | d :: rest => d :: '.' :: rest
    let sign := if lead < 0 then '-' else '+'
    part ++ 'e' :: sign :: padZeros style.exponentWidth (Nat.toDigits 10 lead.natAbs)

/-- The text of a number in a style. -/
def styled (style : NumberStyle) : Binary64 → String
  | .nan => style.nanText
  | .infinite s => (if s then "-" else "") ++ style.infinityText
  | .finite s m e =>
    let body :=
      if m = 0 then ['0', '.', '0']
      else
        let (q, k) := shortest m e
        let ds := Nat.toDigits 10 q
        digitsText style ds (ds.length + k)
    String.ofList (if s then '-' :: body else body)

/-- The text of a number: the shortest digits that read back. -/
def text (x : Binary64) : String := x.styled .plain

/-- The text of a number, without a point when it is an integer. -/
def plainText (x : Binary64) : String :=
  if x.isInteger then toString x.toRat.num else x.text

end Binary64

/-- Digits in groups of three, counted from the right. -/
def groupThousands (ds : List Char) : List Char :=
  go ds.reverse 0 []
where
  /-- Takes digits from the right; `count` of them stand in the group in progress. -/
  go : List Char → Nat → List Char → List Char
    | [], _, acc => acc
    | d :: rest, count, acc =>
      if count = 3 then go rest 1 (d :: ',' :: acc) else go rest (count + 1) (d :: acc)

/-- A natural number in groups of three digits. -/
def groupedText (n : Nat) : String := String.ofList (groupThousands (Nat.toDigits 10 n))

/-- A number to the nearest integer, a tie to the even one, in groups of three digits. -/
def Binary64.roundedText : Binary64 → String
  | .nan => NumberStyle.plain.nanText
  | .infinite s => (if s then "-" else "") ++ NumberStyle.plain.infinityText
  | .finite s m e =>
    let (n, d) := Binary64.scaledTwo m e
    (if s then "-" else "") ++ groupedText (Binary64.divEven n d)

/-!
## Numbers as they are written

A `Numeral` is a number of a payload: an unbounded integer, or a double precision number if it was
written with a point or an exponent. Both kinds are compared by their values.

* `Numeral.text` writes a number as it is, `Numeral.plainText?` without the point of an integer.
* `Numeral.lt` compares two numbers.
* `Numeral.bounded` is the number of a range that is nearest to a number.
-/

/-- A number as it was written: with or without a point. -/
inductive Numeral where
  | integer (i : Int)
  | decimal (x : Binary64)
deriving DecidableEq, Repr

namespace Numeral

/-- Zero. -/
def zero : Numeral := .integer 0

/-- Whether a number is zero. -/
def isZero : Numeral → Bool
  | .integer i => i == 0
  | .decimal x => x.isZero

/-- The text of a number. -/
def text : Numeral → String
  | .integer i => toString i
  | .decimal x => x.text

/-- The double precision number next to a number, unless it is too large. -/
def toBinary64? : Numeral → Option Binary64
  | .integer i => Binary64.ofInt? i
  | .decimal x => some x

/-- The text of a number, without a point when it is an integer, unless it is too large. -/
def plainText? : Numeral → Option String
  | .integer i => (Binary64.ofInt? i).map fun _ => toString i
  | .decimal x => some x.plainText

/-- The integer next to a number on the side of zero. -/
def truncate? : Numeral → Except IntegerError Int
  | .integer i => .ok i
  | .decimal x => x.truncate?

/-- Whether an integer is less than a double precision number. -/
def integerLt (i : Int) : Binary64 → Bool
  | .nan => false
  | .infinite negative => !negative
  | .finite s m e => decide ((i : Rat) < (Binary64.finite s m e).toRat)

/-- Whether a double precision number is less than an integer. -/
def decimalLt : Binary64 → Int → Bool
  | .nan, _ => false
  | .infinite negative, _ => negative
  | .finite s m e, i => decide ((Binary64.finite s m e).toRat < (i : Rat))

/-- Whether one number is less than another. -/
def lt : Numeral → Numeral → Bool
  | .integer i, .integer j => decide (i < j)
  | .integer i, .decimal y => integerLt i y
  | .decimal x, .integer j => decimalLt x j
  | .decimal x, .decimal y => x.lt y

/-- The number of a range that is nearest to a number. -/
def bounded (low high : Int) (n : Numeral) : Numeral :=
  let upper := if lt (.integer high) n then .integer high else n
  if lt (.integer low) upper then upper else .integer low

end Numeral

end StaticSite
