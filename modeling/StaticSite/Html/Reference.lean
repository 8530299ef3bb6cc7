import StaticSite.Html.ReferenceNames
import StaticSite.Text.Find

/-!
# Character references

A reference is `&`, a name or a number, and a semicolon: `&copy;`, `&#169;`, `&#xA9;`.

* `ampersandParts` cuts a text before each ampersand, so that every part but the first begins
  with one.
* `matchReference?` reads a reference at the start of such a part. It is lenient: a name that
  begins the name of some reference will do, and one foreign character may end a number.
* `referenceChar?` is the character that the name of a reference stands for, as far as the name
  is also read without its semicolon.
* `resolveReferences` replaces the references that stand for a character.
-/

namespace StaticSite.Html

/-- The pieces of a text before each ampersand, `part` being the piece in progress. -/
def ampersandPartsFrom : List Char → List Char → List (List Char)
  | [], part => if part.isEmpty then [] else [part.reverse]
  | c :: cs, part =>
    if c == '&' then
      (if part.isEmpty then ampersandPartsFrom cs [c]
       else part.reverse :: ampersandPartsFrom cs [c])
    else ampersandPartsFrom cs (c :: part)

/-- A text cut before each of its ampersands. -/
def ampersandParts (cs : List Char) : List (List Char) := ampersandPartsFrom cs []

/-- Whether a character ends the name of a reference. -/
def endsReference (c : Char) : Bool :=
  "<&=; \t\n\r\x0b\x0c".toList.contains c

/-- The tails of the names that begin with `c`. -/
def narrow (c : Char) (names : List (List Char)) : List (List Char) :=
  names.filterMap fun name =>
    match name with
    | d :: rest => if d == c then some rest else none
    | [] => none

/-- Reads a name up to its semicolon, as long as it begins one of `names`. -/
def matchName? : List (List Char) → List Char → List Char → Option (List Char)
  | _, _, [] => none
  | names, seen, c :: cs =>
    if endsReference c then (if c == ';' && !seen.isEmpty then some seen.reverse else none)
    else
      let names := narrow c names
      if names.isEmpty then none else matchName? names (c :: seen) cs

/-- Reads digits up to a semicolon; one character that is no digit may come before it. -/
def matchDigits? (isDigit : Char → Bool) (seen : List Char) : List Char → Option (List Char)
  | [] => none
  | c :: cs =>
    if endsReference c then (if c == ';' then some seen.reverse else none)
    else if isDigit c then matchDigits? isDigit (c :: seen) cs
    else if cs.head? == some ';' then some seen.reverse else none

/-- Whether a character is a hexadecimal digit. -/
def isHexDigit (c : Char) : Bool :=
  c.isDigit || ('a' ≤ c && c ≤ 'f') || ('A' ≤ c && c ≤ 'F')

/-- The name of the reference at the start of a text. -/
def matchReference? : List Char → Option (List Char)
  | '&' :: '#' :: 'x' :: cs => matchDigits? isHexDigit ['x', '#'] cs
  | '&' :: '#' :: 'X' :: cs => matchDigits? isHexDigit ['X', '#'] cs
  | '&' :: '#' :: cs => matchDigits? Char.isDigit ['#'] cs
  | '&' :: cs => matchName? referenceNames [] cs
  | _ => none

/-- The value of a hexadecimal digit. -/
def hexValue (c : Char) : Nat :=
  if c.isDigit then c.toNat - '0'.toNat
  else if 'a' ≤ c then c.toNat - 'a'.toNat + 10
  else c.toNat - 'A'.toNat + 10

/-- The number written by digits of a base. -/
def numeral (base : Nat) (cs : List Char) : Nat := cs.foldl (fun n c => base * n + hexValue c) 0

/-- The character of a code point. The code points reserved for pairs have none of their own; a
private character stands for them. -/
def ofCodePoint (n : Nat) : Char := if n.isValidChar then Char.ofNat n else Char.ofNat 0xE000

/-- The character with a number, when the number is positive and within range. -/
def numberedChar? (base : Nat) (digits : List Char) : Option Char :=
  let n := numeral base digits
  if digits.isEmpty || n == 0 || n ≥ 0x110000 then none else some (ofCodePoint n)

/-- The character that a reference stands for, by its name. -/
def referenceChar? : List Char → Option Char
  | '#' :: 'x' :: digits => numberedChar? 16 digits
  | '#' :: 'X' :: digits => numberedChar? 16 digits
  | '#' :: digits => numberedChar? 10 digits
  | name => (shortReferences.lookup (String.ofList name)).map Char.ofNat

/-- A part that begins with a reference which stands for a character: that character and what
follows. -/
def resolvePart? (part : List Char) : Option (Char × List Char) :=
  (matchReference? part).bind fun name =>
    (referenceChar? name).map fun c => (c, part.drop (name.length + 2))

/-- Replaces the references that stand for a character. -/
def resolveReferences (cs : List Char) : List Char :=
  (ampersandParts cs).flatMap fun part =>
    match resolvePart? part with
    | some (c, rest) => c :: rest
    | none => part

end StaticSite.Html
