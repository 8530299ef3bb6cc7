import StaticSite.Number.Binary64
import StaticSite.Text.Blank
import StaticSite.Text.Digit

/-!
# Decimal numerals

A numeral is a natural number with a sign and a power of ten. `Decimal.toBinary64` is the nearest
double precision number, computed exactly however large the power is. `Decimal.scan` reads the
longest numeral at the start of a text.
-/

namespace StaticSite

/-- The value `± digits * 10 ^ exponent`. -/
structure Decimal where
  negative : Bool
  digits : Nat
  exponent : Int
deriving DecidableEq, Repr

namespace Decimal

/-- The number of decimal digits of a positive number, and zero for zero. -/
def digitCount (n : Nat) : Nat := if n = 0 then 0 else (Nat.toDigits 10 n).length

/-- The double precision number nearest to a numeral. Powers of ten far beyond the range of the
format are not computed. -/
def toBinary64 (d : Decimal) : Binary64 :=
  if d.digits = 0 then .zero d.negative
  else
    let magnitude : Int := digitCount d.digits + d.exponent
    if 310 < magnitude then .infinite d.negative
    else if magnitude < -330 then .zero d.negative
    else if 0 ≤ d.exponent then .ofRatio d.negative (d.digits * Nat.pow 10 d.exponent.toNat) 1
    else .ofRatio d.negative d.digits (Nat.pow 10 (-d.exponent).toNat)

/-- The digits of an exponent mark with its sign, when the text goes on with one; otherwise no
exponent and the text itself. -/
def scanExponent (cs : List Char) : Int × List Char :=
  match cs with
  | c :: rest =>
    if c == 'e' || c == 'E' then
      let (negative, body) := match rest with
        | '-' :: r => (true, r)
        | '+' :: r => (false, r)
        | r => (false, r)
      let ds := body.takeWhile Text.isDigit
      if ds.isEmpty then (0, cs)
      else
        let n : Int := Text.digitsValue ds
        (if negative then -n else n, body.dropWhile Text.isDigit)
    else (0, cs)
  | [] => (0, cs)

/-- The longest unsigned numeral at the start of a text, and the rest of the text: digits with a
point before, among or after them, then an exponent. -/
def scanUnsigned (negative : Bool) (cs : List Char) : Option (Decimal × List Char) :=
  let whole := cs.takeWhile Text.isDigit
  let rest := cs.dropWhile Text.isDigit
  let (part, rest) := match rest with
    | '.' :: r => (r.takeWhile Text.isDigit, r.dropWhile Text.isDigit)
    | r => ([], r)
  if whole.isEmpty && part.isEmpty then none
  else
    let (e, rest) := scanExponent rest
    some (⟨negative, Text.digitsValue (whole ++ part), e - part.length⟩, rest)

/-- A text that is a numeral with an optional minus sign, blanks aside. -/
def ofText? (s : String) : Option Decimal :=
  let cs := s.toList.dropWhile Text.isBlank
  let scanned := match cs with
    | '-' :: rest => scanUnsigned true rest
    | rest => scanUnsigned false rest
  match scanned with
  | some (d, rest) => if rest.all Text.isBlank then some d else none
  | none => none

end Decimal

/-!
## Numbers in a text

`Binary64.ofText?` reads a text that is a number: a numeral with a sign, in the digits of any
script, or a word for infinity or not-a-number. Single underscores may stand between digits, and
blanks around the number.
-/

/-- A text without the underscores between its digits, the character before it being `previous`;
nothing if an underscore stands elsewhere. -/
def withoutSeparators? (previous : Option Char) : List Char → Option (List Char)
  | [] => some []
  | c :: cs =>
    if c == '_' then
      let between := previous.any Text.isDigit && cs.head?.any Text.isDigit
      if between then withoutSeparators? (some c) cs else none
    else (withoutSeparators? (some c) cs).map (c :: ·)

namespace Binary64

/-- The number with a sign that a text is. -/
def ofUnsigned? (negative : Bool) (cs : List Char) : Option Binary64 :=
  let word := String.ofList (cs.map Char.toLower)
  if word == "inf" || word == "infinity" then some (.infinite negative)
  else if word == "nan" then some .nan
  else match Decimal.scanUnsigned negative cs with
    | some (d, []) => some d.toBinary64
    | _ => none

/-- The number that a text is. -/
def ofText? (s : String) : Option Binary64 :=
  (withoutSeparators? none (Text.stripList s.toList)).bind fun
    | '-' :: cs => ofUnsigned? true cs
    | '+' :: cs => ofUnsigned? false cs
    | cs => ofUnsigned? false cs

end Binary64

end StaticSite
