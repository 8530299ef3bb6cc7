import StaticSite.Condition.Token
import StaticSite.Number.Decimal
import StaticSite.Text.Find

/-!
# Cutting a condition into tokens

`tokenize` reads a text from the left. At each place it tries, in this order, a blank, a quoted
string, a numeral, a two-character operator, a one-character operator, a parenthesis, and a word of
ASCII letters, digits, underscores and points. A word that ends in `.includes` is a reference
followed by the `includes` token; what stands before the suffix is taken as it is. Any other word is
a truth value or a reference, which may not begin or end with a point or hold two in a row.
-/

namespace StaticSite.Condition

/-- Whether a character separates tokens. -/
def isSeparator (c : Char) : Bool := c == ' ' || c == '\t' || c == '\r' || c == '\n'

/-- Whether a character may stand in a word. -/
def isNameChar (c : Char) : Bool := c.isAlphanum || c == '_' || c == '.'

/-- The numeral at the start of a text: digits, and a point with digits after it. -/
def scanNumeral (negative : Bool) (cs : List Char) :
    Option (Except Fault Operand × List Char) :=
  let whole := cs.takeWhile Text.isDigit
  let rest := cs.dropWhile Text.isDigit
  if whole.isEmpty then none
  else
    let integer : Except Fault Operand :=
      if digitLimit < whole.length then .error (.numeral whole.length)
      else
        let n : Int := Text.digitsValue whole
        .ok (.int (if negative then -n else n))
    match rest with
    | '.' :: more =>
      let part := more.takeWhile Text.isDigit
      -- A point without digits behind it is left to what is read next.
      if part.isEmpty then some (integer, rest)
      else
        let d : Decimal := ⟨negative, Text.digitsValue (whole ++ part), -(part.length : Int)⟩
        some (.ok (.float d.toBinary64), more.dropWhile Text.isDigit)
    | _ => some (integer, rest)

/-- The numeral at the start of a text, with its sign. -/
def scanNumber : List Char → Option (Except Fault Operand × List Char)
  | '-' :: rest => scanNumeral true rest
  | cs => scanNumeral false cs

/-- The operator at the start of a text; the ones of two characters come first. -/
def scanOperator : List Char → Option (Token × List Char)
  | '=' :: '=' :: rest => some (.compare .eq, rest)
  | '!' :: '=' :: rest => some (.compare .ne, rest)
  | '>' :: '=' :: rest => some (.compare .ge, rest)
  | '<' :: '=' :: rest => some (.compare .le, rest)
  | '&' :: '&' :: rest => some (.connect .all, rest)
  | '|' :: '|' :: rest => some (.connect .any, rest)
  | '<' :: rest => some (.compare .lt, rest)
  | '>' :: rest => some (.compare .gt, rest)
  | '(' :: rest => some (.openParen, rest)
  | ')' :: rest => some (.closeParen, rest)
  | _ => none

/-- The word that asks for membership. -/
def includesWord : List Char := ".includes".toList

/-- Whether two points follow each other in a word. -/
def hasDoublePoint (w : List Char) : Bool := Text.containsList ['.', '.'] w

/-- The tokens that a word stands for. -/
def wordTokens (w : List Char) : Except Fault (List Token) :=
  if w = includesWord then .ok [.includes]
  else match Text.stripSuffix? includesWord w with
    -- Whatever stands before the suffix is taken for a reference, and not looked at.
    | some name => .ok [.operand (.ref (String.ofList name)), .includes]
    | none =>
      if w = "true".toList then .ok [.operand (.truth true)]
      else if w = "false".toList then .ok [.operand (.truth false)]
      else if w.head? = some '.' || w.getLast? = some '.' || hasDoublePoint w then
        .error (.reference (String.ofList w))
      else .ok [.operand (.ref (String.ofList w))]

/-- Reads the tokens at the start of a text that begins with `c`, `total` being the length of the
whole condition. -/
def step (total : Nat) (c : Char) (rest : List Char) : Except Fault (List Token × List Char) :=
  let place := total - (rest.length + 1)
  if isSeparator c then .ok ([], rest)
  else if c == '\'' || c == '"' then
    if rest.contains c then
      .ok ([.operand (.text (String.ofList (rest.takeWhile (· != c))))],
        (rest.dropWhile (· != c)).drop 1)
    else .error (.unclosedString place)
  else match scanNumber (c :: rest) with
    | some (.ok o, rest) => .ok ([.operand o], rest)
    | some (.error f, _) => .error f
    | none =>
      match scanOperator (c :: rest) with
      | some (t, rest) => .ok ([t], rest)
      | none =>
        let w := (c :: rest).takeWhile isNameChar
        if w.isEmpty then .error (.character c place)
        else match wordTokens w with
          | .ok ts => .ok (ts, (c :: rest).dropWhile isNameChar)
          | .error f => .error f

/-- Cuts the rest of a condition into tokens. Each step takes at least one character, so that as
much fuel as there are characters is enough. -/
def tokenizeFrom (total : Nat) : Nat → List Char → Except Fault (List Token)
  | _, [] => .ok []
  | 0, _ => .ok []
  | fuel + 1, c :: rest =>
    match step total c rest with
    | .error f => .error f
    | .ok (ts, rest) =>
      match tokenizeFrom total fuel rest with
      | .error f => .error f
      | .ok more => .ok (ts ++ more)

/-- Cuts a list of characters into tokens. -/
def tokenizeList (cs : List Char) : Except Fault (List Token) :=
  tokenizeFrom cs.length cs.length cs

/-- Cuts a text into tokens. -/
def tokenize (s : String) : Except Fault (List Token) := tokenizeList s.toList

end StaticSite.Condition
