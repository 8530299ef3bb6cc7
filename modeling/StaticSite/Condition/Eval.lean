import StaticSite.Condition.Parser
import StaticSite.Condition.Value

/-!
# Evaluating conditions

A reference is looked up in the answers as a whole; if there is no such answer, its parts lead
through nested objects. What is missing or null counts as the empty text. A text that is no
condition, or whose evaluation fails, is false.
-/

namespace StaticSite.Condition

/-- A visitor's answers by field. -/
abbrev Answers := List (String × Json)

/-- The value of a field that may be missing or null. -/
def presentOr : Option Json → Json
  | none => .str ""
  | some .null => .str ""
  | some v => v

/-- The value at the end of a path through nested objects. -/
def walk : List String → Json → Option Json
  | [], v => some v
  | part :: parts, v => (v.get? part).bind (walk parts)

/-- The parts of a reference between its points. -/
def segments (name : String) : List String :=
  (Text.splitOnChar '.' name.toList).map String.ofList

/-- The value of a reference. -/
def lookup (answers : Answers) (name : String) : Json :=
  match List.lookup name answers with
  | some v => presentOr (some v)
  | none => presentOr (walk (segments name) (.obj answers))

/-- The value of an operand. -/
def resolve (answers : Answers) : Operand → Json
  | .text s => .str s
  | .int i => .int i
  | .float x => .float x
  | .truth b => .bool b
  | .ref name => lookup answers name

/-- The outcome of a clause. -/
def evalClause (answers : Answers) : Clause → Except EvalError Bool
  | .truthy o => truthy (resolve answers o)
  | .compare l op r => compare op (resolve answers l) (resolve answers r)
  | .includes c i => includes (resolve answers c) (resolve answers i)

/-- The outcome of a condition. Both sides of a connective are evaluated. -/
def evalTree (answers : Answers) : Tree → Except EvalError Bool
  | .clause c => evalClause answers c
  | .join c l r => do
    let a ← evalTree answers l
    let b ← evalTree answers r
    .ok (match c with
      | .all => a && b
      | .any => a || b)

/-- Whether a text is a condition that holds for the answers. -/
def holds (s : String) (answers : Answers) : Bool :=
  match parse s with
  | .error _ => false
  | .ok tree =>
    match evalTree answers tree with
    | .error _ => false
    | .ok b => b

end StaticSite.Condition
