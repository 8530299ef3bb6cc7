import StaticSite.Condition.Token
import StaticSite.Json.Printer
import StaticSite.Number.Decimal
import StaticSite.Text.Find

/-!
# Answers as numbers, texts and truth values

Answers are JSON values. A comparison looks at two of them loosely: a text that looks like a number
meets a number as one, a truth value counts as zero or one, and a list meets a text as its items
joined by commas.

* `toNumber` and `toText` are the views of a value as a number and as a text.
* `truthy` is the test of a value on its own; `looseEquals` and `compare` are the operators.
* An integer beyond the range of double precision numbers has no such view, and an object has no
  text if an integer in it has more digits than are written: `EvalError`.
-/

namespace StaticSite.Condition

/-- Why a value has no view as a number or as a text. -/
inductive EvalError where
  | integerTooLarge
  | integerTooLong
deriving DecidableEq, Repr

/-- The wording of an error. -/
def EvalError.message : EvalError → String
  | .integerTooLarge => "int too large to convert to float"
  | .integerTooLong =>
    "Exceeds the limit (" ++ toString digitLimit ++ " digits) for integer string conversion; " ++
      "use sys.set_int_max_str_digits() to increase the limit"

/-- The double precision number nearest to an integer. -/
def widen (i : Int) : Except EvalError Binary64 :=
  match Binary64.ofInt? i with
  | some x => .ok x
  | none => .error .integerTooLarge

/-- The number that a text looks like. -/
def numericText? (s : String) : Option Binary64 := (Decimal.ofText? s).map Decimal.toBinary64

/-- A number value as a double precision number; nothing for the other values. -/
def asNumber? : Json → Option (Except EvalError Binary64)
  | .int i => some (widen i)
  | .float x => some (.ok x)
  | _ => none

/-- Whether a value is a number. Truth values are not. -/
def isNumber : Json → Bool
  | .int _ => true
  | .float _ => true
  | _ => false

/-- The view of a value as a number, not a number when there is none. -/
def toNumber : Json → Except EvalError Binary64
  | .bool b => .ok (.ofNat (if b then 1 else 0))
  | .int i => widen i
  | .float x => .ok x
  | .str s => .ok ((numericText? s).getD .nan)
  | _ => .ok .nan

mutual

/-- Whether a value holds an integer that has too many digits to be written. -/
def hasLongInteger : Json → Bool
  | .int i => decide (Nat.pow 10 digitLimit ≤ i.natAbs)
  | .arr items => hasLongIntegerItem items
  | .obj fields => hasLongIntegerField fields
  | _ => false

/-- Whether one of several values holds such an integer. -/
def hasLongIntegerItem : List Json → Bool
  | [] => false
  | v :: vs => hasLongInteger v || hasLongIntegerItem vs

/-- Whether the value of a field holds such an integer. -/
def hasLongIntegerField : List (String × Json) → Bool
  | [] => false
  | (_, v) :: fs => hasLongInteger v || hasLongIntegerField fs

end

mutual

/-- The view of a value as a text. -/
def toText : Json → Except EvalError String
  | .null => .ok ""
  | .bool b => .ok (if b then "true" else "false")
  | .int i => (widen i).map fun _ => toString i
  | .float x => .ok x.plainText
  | .str s => .ok s
  | .arr [] => .ok ""
  | .arr (v :: vs) => do
    let first ← toText v
    let rest ← toTexts vs
    .ok (first ++ rest)
  | .obj fields =>
    if hasLongIntegerField fields then .error .integerTooLong else .ok (Json.obj fields).literal

/-- The texts of values, each after a comma. -/
def toTexts : List Json → Except EvalError String
  | [] => .ok ""
  | v :: vs => do
    let first ← toText v
    let rest ← toTexts vs
    .ok ("," ++ first ++ rest)

end

/-- Turns a text that looks like a number into one when the other value is a number. -/
def coercePair (left right : Json) : Json × Json :=
  match left, right with
  | .str s, r =>
    if isNumber r then (((numericText? s).map .float).getD (.str s), r) else (.str s, r)
  | l, .str s =>
    if isNumber l then (l, ((numericText? s).map .float).getD (.str s)) else (l, .str s)
  | l, r => (l, r)

/-- Whether two values of one kind are equal. -/
def sameKindEquals : Json → Json → Bool
  | .str a, .str b => a == b
  | .null, .null => true
  | .arr a, .arr b => (Json.arr a).equal (.arr b)
  | .obj a, .obj b => (Json.obj a).equal (.obj b)
  | .bool a, .bool b => a == b
  | _, _ => false

/-- Loose equality. -/
def looseEquals (left right : Json) : Except EvalError Bool :=
  let (l, r) := coercePair left right
  match asNumber? l, asNumber? r with
  | some a, some b => do .ok ((← a).eq (← b))
  | _, _ =>
    match l, r with
    | .bool a, .bool b => .ok (a == b)
    | .bool a, r => do .ok ((← toNumber (.bool a)).eq (← toNumber r))
    | l, .bool b => do .ok ((← toNumber l).eq (← toNumber (.bool b)))
    | .arr items, .str s => do .ok ((← toText (.arr items)) == s)
    | .str s, .arr items => do .ok ((← toText (.arr items)) == s)
    | l, r => .ok (sameKindEquals l r)

/-- The test of a value on its own: lists, texts and objects that are not empty, numbers other than
zero, and true. -/
def truthy : Json → Except EvalError Bool
  | .null => .ok false
  | .bool b => .ok b
  | .int i => if i = 0 then .ok false else (widen i).map fun _ => true
  | .float x => .ok (!x.isZero && !x.isNan)
  | .str s => .ok (s != "")
  | .arr items => .ok !items.isEmpty
  | .obj fields => .ok !fields.isEmpty

/-- Equality of an item with an entry of a list: numbers by value, others only within their kind. -/
def strictEquals (left right : Json) : Bool :=
  if isNumber left && isNumber right then left.equal right else sameKindEquals left right

/-- Whether a list holds an item, or the text of a value the text of another. -/
def includes (container item : Json) : Except EvalError Bool :=
  match container with
  | .arr items => .ok (items.any (strictEquals · item))
  | c => do
    let inner ← toText item
    let outer ← toText c
    .ok (Text.contains outer inner)

/-- The outcome of an operator. -/
def compare (op : Operator) (left right : Json) : Except EvalError Bool :=
  match op with
  | .eq => looseEquals left right
  | .ne => (looseEquals left right).map (!·)
  | op => do
    let (l, r) := coercePair left right
    let a ← toNumber l
    let b ← toNumber r
    .ok (match op with
      | .ge => b.le a
      | .le => a.le b
      | .gt => b.lt a
      | _ => a.lt b)

end StaticSite.Condition
