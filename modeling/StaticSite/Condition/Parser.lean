import StaticSite.Condition.Lexer

/-!
# The structure of conditions

A condition is a chain of clauses joined by connectives. A clause is an operand, a comparison of
two operands, or the question whether one operand includes another.

* `Tree` is the structure of a condition; `Tree.tokens` reads its tokens from left to right.
* `parseTokens` builds the tree that nests to the left, and `parse` does so from a text.
-/

namespace StaticSite.Condition

/-- A clause of a condition. -/
inductive Clause where
  | truthy (o : Operand)
  | compare (left : Operand) (op : Operator) (right : Operand)
  | includes (container item : Operand)
deriving DecidableEq, Repr

/-- A condition: clauses joined by connectives. -/
inductive Tree where
  | clause (c : Clause)
  | join (c : Connective) (left right : Tree)
deriving DecidableEq, Repr

/-- The tokens of a clause. -/
def Clause.tokens : Clause → List Token
  | .truthy o => [.operand o]
  | .compare l op r => [.operand l, .compare op, .operand r]
  | .includes c i => [.operand c, .includes, .openParen, .operand i, .closeParen]

/-- The tokens of a tree, from left to right. -/
def Tree.tokens : Tree → List Token
  | .clause c => c.tokens
  | .join c l r => l.tokens ++ .connect c :: r.tokens

/-- Reads an operand. -/
def parseOperand : List Token → Except Fault (Operand × List Token)
  | [] => .error .ended
  | .operand o :: rest => .ok (o, rest)
  | t :: _ => .error (.operand t)

/-- Reads a given token, which a message calls `kind`. -/
def expect (t : Token) (kind : String) : List Token → Except Fault (List Token)
  | [] => .error .ended
  | u :: rest => if u = t then .ok rest else .error (.expected kind u)

/-- Reads a clause. -/
def parseClause (ts : List Token) : Except Fault (Clause × List Token) := do
  let (left, rest) ← parseOperand ts
  match rest with
  | [] => .ok (.truthy left, [])
  -- The connective belongs to the chain and is left there.
  | .connect c :: more => .ok (.truthy left, .connect c :: more)
  | .includes :: more =>
    let more ← expect .openParen Token.openParen.kind more
    let (item, more) ← parseOperand more
    let more ← expect .closeParen Token.closeParen.kind more
    .ok (.includes left item, more)
  | .compare op :: more =>
    let (right, more) ← parseOperand more
    .ok (.compare left op right, more)
  | t :: _ => .error (.afterValue t)

/-- Reads the rest of a chain whose part so far is `tree`. A connective and a clause take at least
one token, so that as much fuel as there are tokens is enough. -/
def parseChain : Nat → Tree → List Token → Except Fault Tree
  | _, tree, [] => .ok tree
  | 0, tree, _ => .ok tree
  | fuel + 1, tree, .connect c :: rest => do
    let (clause, rest) ← parseClause rest
    parseChain fuel (.join c tree (.clause clause)) rest
  | _ + 1, _, t :: _ => .error (.unexpected t)

/-- Reads a list of tokens as a condition. -/
def parseTokens (ts : List Token) : Except Fault Tree := do
  if ts.isEmpty then .error .empty
  else
    let (clause, rest) ← parseClause ts
    parseChain rest.length (.clause clause) rest

/-- Reads a text as a condition. -/
def parse (s : String) : Except Fault Tree := do
  parseTokens (← tokenize s)

/-- Whether a text is a condition. -/
def isValid (s : String) : Bool := (parse s).isOk

end StaticSite.Condition
