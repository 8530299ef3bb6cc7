import StaticSite.Json.Basic
import StaticSite.Number.Notation

/-!
# Fields of loose objects

The content of a block is an object whose fields may hold anything. A field is read as what is
needed, and one that is absent or holds something else counts as having no value.

* `Fields.text?` is a text that is not empty; a number counts as its text.
* `Fields.items` and `Fields.records` are the items of a list, and those of them that are objects.
* `Fields.object`, `Fields.number?` and `Fields.flag` are an object, a number and a truth value.
-/

namespace StaticSite

/-- The fields of an object. -/
abbrev Fields := List (String × Json)

namespace Fields

/-- The number that a value is. -/
def numeral? : Json → Option Numeral
  | .int i => some (.integer i)
  | .float x => some (.decimal x)
  | _ => none

/-- The text of a value that is a number or a text that is not empty. -/
def textOf? : Json → Option String
  | .int i => some (Numeral.integer i).text
  | .float x => some (Numeral.decimal x).text
  | .str s => if s.isEmpty then none else some s
  | _ => none

variable (fs : Fields) (name : String)

/-- The text of a field. -/
def text? : Option String := (fs.lookup name).bind textOf?

/-- The text of a field, or the empty text. -/
def text : String := (fs.text? name).getD ""

/-- The items of a field that holds a list. -/
def items : List Json := ((fs.lookup name).bind Json.asArray?).getD []

/-- The items of a list that are objects. -/
def records : List Fields := (fs.items name).filterMap Json.asObject?

/-- The records of a list in which a field has a text. -/
def recordsWith (key : String) : List Fields :=
  (fs.records name).filter fun r => (r.text? key).isSome

/-- The fields of a field that holds an object. -/
def object : Fields := ((fs.lookup name).bind Json.asObject?).getD []

/-- The number of a field. -/
def number? : Option Numeral := (fs.lookup name).bind numeral?

/-- The truth value of a field, or a default. -/
def flag (default : Bool) : Bool :=
  match fs.lookup name with
  | some (.bool b) => b
  | _ => default

end Fields

end StaticSite
