import StaticSite.Json.Fields
import StaticSite.Number.Decimal
import StaticSite.Text.Case
import StaticSite.Text.Find
import StaticSite.Time.Timestamp

/-!
# Reading records

A reader turns a JSON value into a value of the domain or into the list of all its problems.
Readers are lenient where the meaning is clear: a numeral in a text is a number, a truth value is
zero or one where a number is wanted, and some words and numbers are truth values.

* `Checked` is the outcome of a reader. Applying a function to several outcomes collects all their
  problems.
* `readText`, `readNumber`, `readInteger`, `readFlag`, `readTimestamp`, `oneOf`, `readList` and
  `readDict` are the readers of values; `requiredField`, `defaultField` and `optionalField` read the
  fields of a record.
-/

namespace StaticSite.Schema

/-!
## Problems of records

A record that does not fit has a list of problems. Each names the place in the record and the
cause.

* `Problem.text` is the text `place:cause`, the steps to the place joined by points.
* `Problem.report` is the text of a list of problems, sorted by code point.
-/

/-- One step into a record. -/
inductive Step where
  | field (name : String)
  | item (index : Nat)
deriving DecidableEq, Repr

/-- The text of a step. -/
def Step.text : Step → String
  | .field name => name
  | .item index => toString index

/-- What is wrong at a place of a record. -/
inductive Cause where
  | missing
  | stringType
  | stringTooShort
  | stringTooLong
  | literal
  | listType
  | dictType
  | modelType
  | modelAttributesType
  | floatType
  | floatParsing
  | intType
  | intParsing
  | intParsingSize
  | intFromFloat
  | finiteNumber
  | boolType
  | boolParsing
  | datetimeType
  | datetimeParsing
  | datetimeFromDateParsing
  | lessThanEqual
  | greaterThanEqual
  | jsonInvalid
deriving DecidableEq, Repr

/-- The code of a cause. -/
def Cause.code : Cause → String
  | .missing => "missing"
  | .stringType => "string_type"
  | .stringTooShort => "string_too_short"
  | .stringTooLong => "string_too_long"
  | .literal => "literal_error"
  | .listType => "list_type"
  | .dictType => "dict_type"
  | .modelType => "model_type"
  | .modelAttributesType => "model_attributes_type"
  | .floatType => "float_type"
  | .floatParsing => "float_parsing"
  | .intType => "int_type"
  | .intParsing => "int_parsing"
  | .intParsingSize => "int_parsing_size"
  | .intFromFloat => "int_from_float"
  | .finiteNumber => "finite_number"
  | .boolType => "bool_type"
  | .boolParsing => "bool_parsing"
  | .datetimeType => "datetime_type"
  | .datetimeParsing => "datetime_parsing"
  | .datetimeFromDateParsing => "datetime_from_date_parsing"
  | .lessThanEqual => "less_than_equal"
  | .greaterThanEqual => "greater_than_equal"
  | .jsonInvalid => "json_invalid"

/-- A problem of a record: the steps to its place, and its cause. -/
structure Problem where
  place : List Step
  cause : Cause
deriving DecidableEq, Repr

/-- The text of a problem. -/
def Problem.text (p : Problem) : String :=
  ".".intercalate (p.place.map Step.text) ++ ":" ++ p.cause.code

/-- The same problem seen from one step further out. -/
def Problem.under (s : Step) (p : Problem) : Problem := ⟨s :: p.place, p.cause⟩

/-- The texts of problems, sorted by code point. -/
def Problem.sortedTexts (ps : List Problem) : List String :=
  (ps.map Problem.text).mergeSort fun a b => a ≤ b

/-- The texts of problems as one text. -/
def Problem.report (ps : List Problem) : String := "; ".intercalate (Problem.sortedTexts ps)

/-! ## Readers -/

/-- A value, or the problems that keep a record from being one. -/
inductive Checked (α : Type) where
  | ok (a : α)
  | bad (problems : List Problem)
deriving Repr

namespace Checked

variable {α β : Type}

/-- Applies a function to an outcome. -/
def map (f : α → β) : Checked α → Checked β
  | .ok a => .ok (f a)
  | .bad ps => .bad ps

/-- Applies an outcome to an outcome; the problems of both count. -/
def ap : Checked (α → β) → Checked α → Checked β
  | .ok f, .ok a => .ok (f a)
  | .ok _, .bad ps => .bad ps
  | .bad ps, .ok _ => .bad ps
  | .bad ps, .bad qs => .bad (ps ++ qs)

instance : Functor Checked where
  map := map

instance : Applicative Checked where
  pure := .ok
  seq f a := ap f (a ())

/-- The outcome seen from one step further out. -/
def under (s : Step) : Checked α → Checked α
  | .ok a => .ok a
  | .bad ps => .bad (ps.map (Problem.under s))

/-- The value of a good outcome. -/
def toOption : Checked α → Option α
  | .ok a => some a
  | .bad _ => none

end Checked

/-- A reader of JSON values. -/
abbrev Reader (α : Type) := Json → Checked α

/-- One problem at the place of the value itself. -/
def problem {α : Type} (c : Cause) : Checked α := .bad [⟨[], c⟩]

/-! ### Values -/

/-- Reads a text. -/
def readText : Reader String
  | .str s => .ok s
  | _ => problem .stringType

/-- Reads a text whose length lies within bounds. -/
def textWithin (least greatest : Nat) : Reader String
  | .str s =>
    if s.length < least then problem .stringTooShort
    else if greatest < s.length then problem .stringTooLong
    else .ok s
  | _ => problem .stringType

/-- Removes white space at both ends. -/
def trimmed (s : String) : List Char := Text.stripChars Text.isWhiteSpace s.toList

/-- The digits and marks of a text without the underscores between them; nothing if an underscore
begins or ends the text or follows another one. -/
def withoutUnderscores? (cs : List Char) : Option (List Char) :=
  if cs.head? = some '_' || cs.getLast? = some '_' || Text.containsList ['_', '_'] cs then none
  else some (cs.filter (· != '_'))

/-- The value of a numeral in ASCII digits, or of a word for infinity or not-a-number. -/
def numeral? (cs : List Char) : Option Binary64 :=
  let (negative, body) := match cs with
    | '-' :: r => (true, r)
    | '+' :: r => (false, r)
    | r => (false, r)
  let word := String.ofList (body.map Char.toLower)
  if word = "inf" || word = "infinity" then some (.infinite negative)
  else if word = "nan" then some .nan
  else if body.all fun c => c.isDigit || ['.', 'e', 'E', '+', '-'].contains c then
    match Decimal.scanUnsigned negative body with
    | some (d, []) => some d.toBinary64
    | _ => none
  else none

/-- Reads a number. -/
def readNumber : Reader Binary64
  | .float x => .ok x
  | .int i =>
    match Binary64.ofInt? i with
    | some x => .ok x
    | none => problem .floatType
  | .bool b => .ok (.ofNat (if b then 1 else 0))
  | .str s =>
    match numeral? (trimmed s) with
    | some x => .ok x
    | none =>
      -- Underscores are left out in a second try, in which no blanks may stand around the number.
      match (withoutUnderscores? s.toList).bind numeral? with
      | some x => .ok x
      | none => problem .floatParsing
  | _ => problem .floatType

/-- The digits of an integer numeral: a fraction of zeros is dropped, and so are underscores between
digits. -/
def integerDigits? (cs : List Char) : Option (List Char) :=
  let whole := cs.takeWhile (· != '.')
  let part := (cs.dropWhile (· != '.')).drop 1
  if part.all (· == '0') then
    (withoutUnderscores? whole).bind fun ds =>
      if ds.isEmpty || !ds.all Char.isDigit then none else some ds
  else none

/-- Reads the text of an integer. -/
def integerText (s : String) : Checked Int :=
  let cs := trimmed s
  let (negative, body) := match cs with
    | '-' :: r => (true, r)
    | '+' :: r => (false, r)
    | r => (false, r)
  match integerDigits? body with
  | none => problem .intParsing
  | some ds =>
    if 4300 < ds.length then problem .intParsingSize
    else
      let n : Int := Text.digitsValue ds
      .ok (if negative then -n else n)

/-- Reads an integer from a number without fraction. -/
def integerOf (x : Binary64) : Checked Int :=
  if !x.isFinite then problem .finiteNumber
  else if !x.isInteger then problem .intFromFloat
  else
    let n := x.toRat.num
    if -Int.pow 2 63 < n ∧ n < Int.pow 2 63 then .ok n else problem .intParsingSize

/-- Reads an integer. -/
def readInteger : Reader Int
  | .int i => .ok i
  | .bool b => .ok (if b then 1 else 0)
  | .float x => integerOf x
  | .str s => integerText s
  | _ => problem .intType

/-- Reads an integer that lies within bounds. -/
def integerWithin (least greatest : Int) : Reader Int := fun v =>
  match readInteger v with
  | .ok i =>
    if greatest < i then problem .lessThanEqual
    else if i < least then problem .greaterThanEqual
    else .ok i
  | .bad ps => .bad ps

/-- The words for true. -/
def trueWords : List String := ["1", "on", "t", "true", "y", "yes"]

/-- The words for false. -/
def falseWords : List String := ["0", "off", "f", "false", "n", "no"]

/-- Reads the truth value that an integer stands for. -/
def flagOf (i : Int) : Checked Bool :=
  if i = 0 then .ok false else if i = 1 then .ok true else problem .boolParsing

/-- Reads a truth value. -/
def readFlag : Reader Bool
  | .bool b => .ok b
  | .str s =>
    let word := String.ofList (s.toList.map Char.toLower)
    if trueWords.contains word then .ok true
    else if falseWords.contains word then .ok false
    else problem .boolParsing
  | .int i => if -Int.pow 2 63 ≤ i ∧ i < Int.pow 2 63 then flagOf i else problem .boolType
  | .float x =>
    match integerOf x with
    | .ok i => flagOf i
    | .bad _ => problem .boolType
  | _ => problem .boolType

/-- Reads a point in time: a text, or a count of seconds or milliseconds. -/
def readTimestamp : Reader Timestamp
  | .str s =>
    match Timestamp.parse? s with
    | some t => .ok t
    | none => problem .datetimeFromDateParsing
  | .int i =>
    match Timestamp.ofCount? i 0 with
    | some t => .ok t
    | none => problem .datetimeParsing
  | .float x =>
    if !x.isFinite then problem .datetimeParsing
    else match Timestamp.ofRat? x.toRat with
      | some t => .ok t
      | none => problem .datetimeParsing
  | _ => problem .datetimeType

/-- Reads one of a list of words. -/
def oneOf {α : Type} (words : List (String × α)) : Reader α
  | .str s =>
    match words.lookup s with
    | some a => .ok a
    | none => problem .literal
  | _ => problem .literal

/-- Reads null as nothing, and any other value by a reader. -/
def nullable {α : Type} (r : Reader α) : Reader (Option α)
  | .null => .ok none
  | v => (r v).map some

/-- Reads the items from a position on. -/
def itemsFrom {α : Type} (r : Reader α) : Nat → List Json → Checked (List α)
  | _, [] => .ok []
  | n, v :: vs => (List.cons <$> (r v).under (.item n)).ap (itemsFrom r (n + 1) vs)

/-- Reads an array item by item. -/
def readList {α : Type} (r : Reader α) : Reader (List α)
  | .arr items => itemsFrom r 0 items
  | _ => problem .listType

/-- Reads the entries of a dictionary. -/
def entriesOf {α : Type} (r : Reader α) : List (String × Json) → Checked (List (String × α))
  | [] => .ok []
  | (k, v) :: rest =>
    (List.cons <$> ((r v).under (.field k)).map (Prod.mk k)).ap (entriesOf r rest)

/-- Reads an object as a dictionary. -/
def readDict {α : Type} (r : Reader α) : Reader (List (String × α))
  | .obj fields => entriesOf r fields
  | _ => problem .dictType

/-- Takes a value as it is. -/
def readAny : Reader Json := .ok

/-- Takes an object as it is. -/
def readObject : Reader (List (String × Json))
  | .obj fields => .ok fields
  | _ => problem .dictType

/-! ### Fields of records -/

/-- The names of a field: the one that counts first, and the one of its problems; and another one
that is looked up if the first is absent. -/
structure Name where
  main : String
  other : Option String := none

instance : Coe String Name where
  coe s := ⟨s, none⟩

/-- A name in camel case that may also be written in snake case. -/
def either (main other : String) : Name := ⟨main, some other⟩

/-- The value of a field. -/
def Name.find? (n : Name) (fs : Fields) : Option Json :=
  match fs.lookup n.main with
  | some v => some v
  | none => n.other.bind (fs.lookup ·)

/-- Reads a field that has to be there. -/
def requiredField {α : Type} (fs : Fields) (n : Name) (r : Reader α) : Checked α :=
  match n.find? fs with
  | some v => (r v).under (.field n.main)
  | none => .bad [⟨[.field n.main], .missing⟩]

/-- Reads a field that has a default. -/
def defaultField {α : Type} (fs : Fields) (n : Name) (default : α) (r : Reader α) : Checked α :=
  match n.find? fs with
  | some v => (r v).under (.field n.main)
  | none => .ok default

/-- Reads a field that may be absent or null. -/
def optionalField {α : Type} (fs : Fields) (n : Name) (r : Reader α) : Checked (Option α) :=
  defaultField fs n none (nullable r)

/-- Reads a list that is empty by default. -/
def listField {α : Type} (fs : Fields) (n : Name) (r : Reader α) : Checked (List α) :=
  defaultField fs n [] (readList r)

/-- Reads a record: an object, by its fields. -/
def record {α : Type} (r : Fields → Checked α) : Reader α
  | .obj fields => r fields
  | _ => problem .modelType

end StaticSite.Schema
