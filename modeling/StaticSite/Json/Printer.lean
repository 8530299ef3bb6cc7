import StaticSite.Json.Basic
import StaticSite.Number.Notation
import StaticSite.Text.Quoted

/-!
# Values as text

JSON is written by `Json.render` and `Json.renderIndented`, and values that are shown inside a text
by `Json.literal`.
-/

namespace StaticSite.Json

/-!
## Writing JSON

Items are separated by a comma and a space, a name from its value by a colon and a space. A
`Charset` tells whether characters beyond ASCII stand for themselves or are written as escapes, one
for each UTF-16 unit.

* `Json.render` writes a value on one line.
* `Json.renderIndented` puts every item and field on a line of its own, indented by two spaces for
  each level.
-/

/-- The characters that stand for themselves inside strings. -/
inductive Charset where
  | ascii
  | unicode
deriving DecidableEq, Repr

/-- The escape of one UTF-16 unit. -/
def unitEscape (n : Nat) : List Char := '\\' :: 'u' :: Text.hexDigits 4 n

/-- One character inside a string. -/
def renderChar (set : Charset) (c : Char) : List Char :=
  if c == '"' then ['\\', '"']
  else if c == '\\' then ['\\', '\\']
  else if c == '\n' then ['\\', 'n']
  else if c == '\r' then ['\\', 'r']
  else if c == '\t' then ['\\', 't']
  else if c == '\x08' then ['\\', 'b']
  else if c == '\x0c' then ['\\', 'f']
  else if c.toNat < 0x20 then unitEscape c.toNat
  else if set = .unicode || c.toNat < 0x7F then [c]
  else if c.toNat < 0x10000 then unitEscape c.toNat
  else
    let n := c.toNat - 0x10000
    unitEscape (0xD800 + n / 0x400) ++ unitEscape (0xDC00 + n % 0x400)

/-- A string in quotes. -/
def renderString (set : Charset) (s : String) : List Char :=
  '"' :: s.toList.flatMap (renderChar set) ++ ['"']

mutual

/-- A value on one line. -/
def renderList (set : Charset) : Json → List Char
  | .null => "null".toList
  | .bool true => "true".toList
  | .bool false => "false".toList
  | .int i => (toString i).toList
  | .float x => (x.styled .json).toList
  | .str s => renderString set s
  | .arr [] => ['[', ']']
  | .arr (item :: items) => '[' :: renderList set item ++ renderItems set items
  | .obj [] => ['{', '}']
  | .obj ((name, value) :: fields) =>
    '{' :: renderString set name ++ ':' :: ' ' :: renderList set value ++ renderFields set fields

/-- The items after the first one, and the closing bracket. -/
def renderItems (set : Charset) : List Json → List Char
  | [] => [']']
  | item :: items => ',' :: ' ' :: renderList set item ++ renderItems set items

/-- The fields after the first one, and the closing brace. -/
def renderFields (set : Charset) : List (String × Json) → List Char
  | [] => ['}']
  | (name, value) :: fields =>
    ',' :: ' ' :: renderString set name ++ ':' :: ' ' :: renderList set value ++
      renderFields set fields

end

/-- A value on one line. -/
def render (set : Charset) (v : Json) : String := String.ofList (renderList set v)

/-- A line feed and the indentation of a level. -/
def newLine (level : Nat) : List Char := '\n' :: List.replicate (2 * level) ' '

mutual

/-- A value over several lines, on a level of indentation. -/
def indentedList (set : Charset) (level : Nat) : Json → List Char
  | .arr (item :: items) =>
    '[' :: newLine (level + 1) ++ indentedList set (level + 1) item ++
      indentedItems set level items
  | .obj ((name, value) :: fields) =>
    '{' :: newLine (level + 1) ++ renderString set name ++ ':' :: ' ' ::
      indentedList set (level + 1) value ++ indentedFields set level fields
  | v => renderList set v

/-- The items after the first one, and the closing bracket on its own line. -/
def indentedItems (set : Charset) (level : Nat) : List Json → List Char
  | [] => newLine level ++ [']']
  | item :: items =>
    ',' :: newLine (level + 1) ++ indentedList set (level + 1) item ++
      indentedItems set level items

/-- The fields after the first one, and the closing brace on its own line. -/
def indentedFields (set : Charset) (level : Nat) : List (String × Json) → List Char
  | [] => newLine level ++ ['}']
  | (name, value) :: fields =>
    ',' :: newLine (level + 1) ++ renderString set name ++ ':' :: ' ' ::
      indentedList set (level + 1) value ++ indentedFields set level fields

end

/-- A value over several lines. -/
def renderIndented (set : Charset) (v : Json) : String := String.ofList (indentedList set 0 v)

/-!
## Literal notation

A value that has to be shown inside a text is written in literal notation: strings in quotes,
`True`, `False` and `None` as words, numbers by their shortest digits, lists in brackets and
objects in braces. A string that is the whole text stands for itself.

* `Json.literal` is the literal notation.
* `Json.display` is the text of a value on its own.
* `Json.equal` is equality of values as numbers see it: truth values count as zero and one, an
  integer equals the double precision number of the same value, and the order of fields does not
  count.
-/

mutual

/-- A value in literal notation. -/
def literal : Json → String
  | .null => "None"
  | .bool true => "True"
  | .bool false => "False"
  | .int i => toString i
  | .float x => x.text
  | .str s => Text.quoted s
  | .arr [] => "[]"
  | .arr (item :: items) => "[" ++ literal item ++ literalItems items
  | .obj [] => "\x7b\x7d"
  | .obj ((name, value) :: fields) =>
    "\x7b" ++ Text.quoted name ++ ": " ++ literal value ++ literalFields fields

/-- The items after the first one, and the closing bracket. -/
def literalItems : List Json → String
  | [] => "]"
  | item :: items => ", " ++ literal item ++ literalItems items

/-- The fields after the first one, and the closing brace. -/
def literalFields : List (String × Json) → String
  | [] => "\x7d"
  | (name, value) :: fields =>
    ", " ++ Text.quoted name ++ ": " ++ literal value ++ literalFields fields

end

/-- The text of a value on its own. -/
def display : Json → String
  | .str s => s
  | v => v.literal

/-- The value of a number or truth value, when it is finite. -/
def rational? : Json → Option Rat
  | .bool b => some (if b then 1 else 0)
  | .int i => some i
  | .float x => if x.isFinite then some x.toRat else none
  | _ => none

/-- Equality of values that are no containers. -/
def equalScalar : Json → Json → Bool
  | .null, .null => true
  | .str a, .str b => a == b
  | .float (.infinite a), .float (.infinite b) => a == b
  | a, b =>
    match a.rational?, b.rational? with
    | some p, some q => decide (p = q)
    | _, _ => false

mutual

/-- Equality of values as numbers see it. -/
def equal : Json → Json → Bool
  | .arr as, .arr bs => equalItems as bs
  | .obj as, .obj bs => as.length == bs.length && equalFields as bs
  | a, b => equalScalar a b

/-- Whether the items of two lists are equal one by one. -/
def equalItems : List Json → List Json → Bool
  | [], [] => true
  | a :: as, b :: bs => equal a b && equalItems as bs
  | _, _ => false

/-- Whether each field has an equal one in another object. -/
def equalFields : List (String × Json) → List (String × Json) → Bool
  | [], _ => true
  | (name, a) :: as, bs =>
    (match bs.lookup name with
      | some b => equal a b
      | none => false) && equalFields as bs

end

end StaticSite.Json
