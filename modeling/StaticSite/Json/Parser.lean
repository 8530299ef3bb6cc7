import StaticSite.Json.Basic
import StaticSite.Number.Decimal

/-!
# Reading JSON

`Json.parse` reads a whole text as one JSON value. A failure tells its cause and the place, counted
in characters from the start. Besides the standard the words `NaN`, `Infinity` and `-Infinity` are
read as numbers. A numeral with a point or an exponent is a double precision number, any other is
an integer.

Every reader takes the rest of the text and gives what remains. Failures carry the number of
characters that were left, from which the place follows.
-/

namespace StaticSite.Json

/-- What makes a text no JSON value. -/
inductive Fault where
  | value
  | extraText
  | fieldName
  | colon
  | comma
  | unclosedString
  | controlCharacter
  | badEscape
  | badUnicodeEscape
deriving DecidableEq, Repr

/-- A fault, and the number of characters left where it was found. -/
structure Failure where
  fault : Fault
  left : Nat
deriving DecidableEq, Repr

/-- Removes the blanks between the parts of a JSON text. -/
def skipBlanks (cs : List Char) : List Char :=
  cs.dropWhile fun c => c == ' ' || c == '\t' || c == '\n' || c == '\r'

/-- The value of a hexadecimal digit. -/
def hexValue? (c : Char) : Option Nat :=
  if '0' ≤ c ∧ c ≤ '9' then some (c.toNat - 0x30)
  else if 'a' ≤ c ∧ c ≤ 'f' then some (c.toNat - 0x57)
  else if 'A' ≤ c ∧ c ≤ 'F' then some (c.toNat - 0x37)
  else none

/-- The number written by four hexadecimal digits. -/
def unit? (a b c d : Char) : Option Nat :=
  match hexValue? a, hexValue? b, hexValue? c, hexValue? d with
  | some a, some b, some c, some d => some (((a * 16 + b) * 16 + c) * 16 + d)
  | _, _, _, _ => none

/-- The character that a one-letter escape stands for. -/
def escaped? (c : Char) : Option Char :=
  match c with
  | '"' => some '"'
  | '\\' => some '\\'
  | '/' => some '/'
  | 'b' => some '\x08'
  | 'f' => some '\x0c'
  | 'n' => some '\n'
  | 'r' => some '\r'
  | 't' => some '\t'
  | _ => none

/-- Reads a string after its opening quote: the code units in it, and the rest after the closing
quote. `start` characters were left at the opening quote; `units` are those read, last one first. -/
def scanString (start : Nat) : List Char → List Nat → Except Failure (List Nat × List Char)
  | [], _ => .error ⟨.unclosedString, start⟩
  | '"' :: rest, units => .ok (units.reverse, rest)
  | ['\\'], _ => .error ⟨.unclosedString, start⟩
  -- Something has to follow the four digits, if only the closing quote.
  | '\\' :: 'u' :: a :: b :: c :: d :: e :: rest, units =>
    match unit? a b c d with
    | some n => scanString start (e :: rest) (n :: units)
    | none => .error ⟨.badUnicodeEscape, rest.length + 6⟩
  | '\\' :: 'u' :: rest, _ => .error ⟨.badUnicodeEscape, rest.length + 1⟩
  | '\\' :: c :: rest, units =>
    match escaped? c with
    | some x => scanString start rest (x.toNat :: units)
    | none => .error ⟨.badEscape, rest.length + 2⟩
  | c :: rest, units =>
    if c.toNat < 0x20 then .error ⟨.controlCharacter, rest.length + 1⟩
    else scanString start rest (c.toNat :: units)

/-- Joins each high surrogate with the low one after it. A surrogate without partner becomes the
replacement character. -/
def joinUnits : List Nat → List Char
  | [] => []
  | [a] => [if 0xD800 ≤ a && a < 0xE000 then Char.ofNat 0xFFFD else Char.ofNat a]
  | a :: b :: rest =>
    if 0xD800 ≤ a && a < 0xDC00 && 0xDC00 ≤ b && b < 0xE000 then
      Char.ofNat (0x10000 + (a - 0xD800) * 0x400 + (b - 0xDC00)) :: joinUnits rest
    else
      (if 0xD800 ≤ a && a < 0xE000 then Char.ofNat 0xFFFD else Char.ofNat a) ::
        joinUnits (b :: rest)

/-- Reads a string after its opening quote. -/
def parseString (cs : List Char) : Except Failure (String × List Char) :=
  match scanString (cs.length + 1) cs [] with
  | .ok (units, rest) => .ok (String.ofList (joinUnits units), rest)
  | .error f => .error f

/-- Whether a character is an ASCII digit. -/
def isAsciiDigit (c : Char) : Bool := '0' ≤ c && c ≤ '9'

/-- The digits after a point, when the text goes on with a point and a digit. -/
def scanFraction : List Char → Option (List Char × List Char)
  | '.' :: rest =>
    let ds := rest.takeWhile isAsciiDigit
    if ds.isEmpty then none else some (ds, rest.dropWhile isAsciiDigit)
  | _ => none

/-- The exponent after an exponent mark, when the text goes on with one. -/
def scanPower : List Char → Option (Int × List Char)
  | c :: rest =>
    if c == 'e' || c == 'E' then
      let (negative, body) := match rest with
        | '-' :: r => (true, r)
        | '+' :: r => (false, r)
        | r => (false, r)
      let ds := body.takeWhile isAsciiDigit
      if ds.isEmpty then none
      else
        let n : Int := Text.digitsValue ds
        some (if negative then -n else n, body.dropWhile isAsciiDigit)
    else none
  | [] => none

/-- The digits before the point: a zero alone, or digits that do not begin with zero. -/
def scanWhole : List Char → Option (List Char × List Char)
  | '0' :: rest => some (['0'], rest)
  | c :: rest =>
    if isAsciiDigit c then
      some (c :: rest.takeWhile isAsciiDigit, rest.dropWhile isAsciiDigit)
    else none
  | [] => none

/-- Reads an unsigned numeral. -/
def scanNumeral (negative : Bool) (cs : List Char) : Option (Json × List Char) :=
  match scanWhole cs with
  | none => none
  | some (whole, rest) =>
    let fraction := scanFraction rest
    let (part, rest) := fraction.getD ([], rest)
    let power := scanPower rest
    let (e, rest) := power.getD (0, rest)
    if fraction.isSome || power.isSome then
      let d : Decimal := ⟨negative, Text.digitsValue (whole ++ part), e - part.length⟩
      some (.float d.toBinary64, rest)
    else
      let n : Int := Text.digitsValue whole
      some (.int (if negative then -n else n), rest)

/-- The values that are written as one word. -/
def constants : List (String × Json) :=
  [("null", .null), ("true", .bool true), ("false", .bool false), ("NaN", .float .nan),
   ("Infinity", .float (.infinite false)), ("-Infinity", .float (.infinite true))]

/-- Reads a constant word. -/
def scanConstant (cs : List Char) : Option (Json × List Char) :=
  constants.findSome? fun k => (k.1.toList.isPrefixOf? cs).map fun rest => (k.2, rest)

/-- Reads a constant or a number. -/
def parseScalar (cs : List Char) : Except Failure (Json × List Char) :=
  match scanConstant cs with
  | some r => .ok r
  | none =>
    let numeral := match cs with
      | '-' :: rest => scanNumeral true rest
      | rest => scanNumeral false rest
    match numeral with
    | some r => .ok r
    | none => .error ⟨.value, cs.length⟩

mutual

/-- Reads a value. Every nested call is made on a shorter text, so that as much fuel as there are
characters, and one more, is enough. -/
def parseValue : Nat → List Char → Except Failure (Json × List Char)
  | 0, cs => .error ⟨.value, cs.length⟩
  | fuel + 1, cs =>
    match cs with
    | '"' :: rest =>
      match parseString rest with
      | .ok (s, rest) => .ok (.str s, rest)
      | .error f => .error f
    | '[' :: rest =>
      match skipBlanks rest with
      | ']' :: rest => .ok (.arr [], rest)
      | rest =>
        match parseItems fuel rest with
        | .ok (items, rest) => .ok (.arr items, rest)
        | .error f => .error f
    | '{' :: rest =>
      match skipBlanks rest with
      | '}' :: rest => .ok (.obj [], rest)
      | rest =>
        match parseFields fuel rest with
        | .ok (fields, rest) => .ok (ofFields fields, rest)
        | .error f => .error f
    | cs => parseScalar cs

/-- Reads the items of an array that has some, and its closing bracket. -/
def parseItems : Nat → List Char → Except Failure (List Json × List Char)
  | 0, cs => .error ⟨.value, cs.length⟩
  | fuel + 1, cs =>
    match parseValue fuel cs with
    | .error f => .error f
    | .ok (item, rest) =>
      match skipBlanks rest with
      | ']' :: rest => .ok ([item], rest)
      | ',' :: rest =>
        match parseItems fuel (skipBlanks rest) with
        | .ok (items, rest) => .ok (item :: items, rest)
        | .error f => .error f
      | rest => .error ⟨.comma, rest.length⟩

/-- Reads the fields of an object that has some, and its closing brace. -/
def parseFields : Nat → List Char → Except Failure (List (String × Json) × List Char)
  | 0, cs => .error ⟨.value, cs.length⟩
  | fuel + 1, cs =>
    match cs with
    | '"' :: rest =>
      match parseString rest with
      | .error f => .error f
      | .ok (name, rest) =>
        match skipBlanks rest with
        | ':' :: rest =>
          match parseValue fuel (skipBlanks rest) with
          | .error f => .error f
          | .ok (value, rest) =>
            match skipBlanks rest with
            | '}' :: rest => .ok ([(name, value)], rest)
            | ',' :: rest =>
              match parseFields fuel (skipBlanks rest) with
              | .ok (fields, rest) => .ok ((name, value) :: fields, rest)
              | .error f => .error f
            | rest => .error ⟨.comma, rest.length⟩
        | rest => .error ⟨.colon, rest.length⟩
    | cs => .error ⟨.fieldName, cs.length⟩

end

/-- Reads a list of characters as one JSON value. -/
def parseList (cs : List Char) : Except Failure Json :=
  match parseValue (cs.length + 1) (skipBlanks cs) with
  | .error f => .error f
  | .ok (value, rest) =>
    match skipBlanks rest with
    | [] => .ok value
    | rest => .error ⟨.extraText, rest.length⟩

/-- A fault and its place, counted in characters from the start of the text. -/
structure Misfit where
  fault : Fault
  place : Nat
deriving DecidableEq, Repr

/-- Reads a text as one JSON value. -/
def parse (s : String) : Except Misfit Json :=
  let cs := s.toList
  match parseList cs with
  | .ok v => .ok v
  | .error f => .error ⟨f.fault, cs.length - f.left⟩

end StaticSite.Json
