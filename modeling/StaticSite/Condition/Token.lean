import StaticSite.Number.Notation
import StaticSite.Text.Quoted

/-!
# Tokens of conditions

A condition is a text over quoted strings, numerals, the truth values, references to answers,
comparison operators, the two connectives, and the form `value.includes(value)`.

* `Operand` is what a token can contribute as a value.
* `Token` is a token, `Token.kind` the name of its kind in messages.
* `Fault` is what makes a text no condition, `Fault.message` its wording.
-/

namespace StaticSite.Condition

/-- The comparison operators. -/
inductive Operator where
  | eq
  | ne
  | ge
  | le
  | gt
  | lt
deriving DecidableEq, Repr

/-- The way an operator is written. -/
def Operator.symbol : Operator → String
  | .eq => "=="
  | .ne => "!="
  | .ge => ">="
  | .le => "<="
  | .gt => ">"
  | .lt => "<"

/-- The connectives of clauses; they bind equally strongly. -/
inductive Connective where
  | all
  | any
deriving DecidableEq, Repr

/-- The way a connective is written. -/
def Connective.symbol : Connective → String
  | .all => "&&"
  | .any => "||"

/-- A value written in a condition, or a reference to an answer. -/
inductive Operand where
  | text (s : String)
  | int (i : Int)
  | float (x : Binary64)
  | truth (b : Bool)
  | ref (name : String)
deriving DecidableEq, Repr

/-- A token of a condition. -/
inductive Token where
  | operand (o : Operand)
  | compare (op : Operator)
  | connect (c : Connective)
  | includes
  | openParen
  | closeParen
deriving DecidableEq, Repr

/-- The name of an operand's kind. -/
def Operand.kind : Operand → String
  | .text _ => "str"
  | .int _ => "num"
  | .float _ => "num"
  | .truth _ => "bool"
  | .ref _ => "ref"

/-- The name of a token's kind. -/
def Token.kind : Token → String
  | .operand o => o.kind
  | .compare _ => "op"
  | .connect _ => "op"
  | .includes => "includes"
  | .openParen => "lparen"
  | .closeParen => "rparen"

/-- What makes a text no condition. -/
inductive Fault where
  | unclosedString (place : Nat)
  | character (c : Char) (place : Nat)
  | reference (text : String)
  | numeral (digits : Nat)
  | empty
  | ended
  | expected (kind : String) (found : Token)
  | operand (found : Token)
  | afterValue (found : Token)
  | unexpected (found : Token)
deriving DecidableEq, Repr

/-- The most digits that an integer may have. -/
def digitLimit : Nat := 4300

/-- The wording of a fault. -/
def Fault.message : Fault → String
  | .unclosedString place => "unterminated string at " ++ toString place
  | .character c place =>
    "unexpected character " ++ Text.quoted (String.singleton c) ++ " at " ++ toString place
  | .reference text => "malformed reference " ++ Text.quoted text
  | .numeral digits =>
    "Exceeds the limit (" ++ toString digitLimit ++ " digits) for integer string conversion: " ++
      "value has " ++ toString digits ++
      " digits; use sys.set_int_max_str_digits() to increase the limit"
  | .empty => "empty condition"
  | .ended => "unexpected end of condition"
  | .expected kind found => "expected " ++ kind ++ ", got " ++ found.kind
  | .operand found => "expected a value, got " ++ found.kind
  | .afterValue found => "unexpected " ++ found.kind ++ " after value"
  | .unexpected found => "unexpected " ++ found.kind

/-- Whether a fault is one of form; the length of a numeral is the only other cause. -/
def Fault.isSyntactic : Fault → Bool
  | .numeral _ => false
  | _ => true

end StaticSite.Condition
