import StaticSite.Markdown.Mark
import StaticSite.Text.Blank
import StaticSite.Text.WordChar

/-!
# Fenced code

A fence is a line of at least three tildes or grave accents, perhaps with the name of a language or
attributes in braces. The text up to a line with the same fence is code. `extractFences` takes such
blocks out of a text and leaves a raw mark, set off by blank lines, in the place of each.
-/

namespace StaticSite.Markdown

/-- The escaped form of a character of fenced code. -/
def escapeFencedChar (c : Char) : List Char :=
  if c == '&' then "&amp;".toList
  else if c == '<' then "&lt;".toList
  else if c == '>' then "&gt;".toList
  else if c == '"' then "&quot;".toList
  else [c]

/-- A block of code as HTML. -/
def codeBlock (code : List Char) : List Char :=
  "<pre><code>".toList ++ code.flatMap escapeFencedChar ++ "</code></pre>".toList

/-- The rest of a text when only spaces stand before the end of the line. -/
def toLineEnd? (cs : List Char) : Option (List Char) :=
  match cs.dropWhile (· == ' ') with
  | [] => some []
  | c :: rest => if c == '\n' then some (c :: rest) else none

/-- The code before a closing fence, and the text after the fence. -/
def splitClosing? (fence : List Char) : Bool → List Char → Option (List Char × List Char)
  | _, [] => none
  | atStart, c :: cs =>
    let closed : Option (List Char) :=
      if atStart then (Text.stripPrefix? fence (c :: cs)).bind toLineEnd? else none
    match closed with
    | some rest => some ([], rest)
    | none => (splitClosing? fence (c == '\n') cs).map fun (code, rest) => (c :: code, rest)

/-- The text after the end of the line, when only spaces stand before it. -/
def nextLine? (cs : List Char) : Option (List Char) :=
  match cs.dropWhile (· == ' ') with
  | '\n' :: rest => some rest
  | _ => none

/-- The ends of the lists of highlighted lines that a text may begin with: for each closing quote
the text after it. -/
def closingQuotes (quote : Char) : List Char → List (List Char)
  | [] => []
  | c :: cs => if c == quote then cs :: closingQuotes quote cs else closingQuotes quote cs

/-- The texts that may follow a list of highlighted lines. -/
def afterHighlights (cs : List Char) : List (List Char) :=
  match Text.stripPrefix? "hl_lines=".toList cs with
  | some (q :: rest) => if q == '"' || q == '\'' then closingQuotes q rest else []
  | _ => []

/-- Whether a character may stand in the name of a language. -/
def isLanguageChar (c : Char) : Bool :=
  Text.isWordChar c || c == '#' || c == '.' || c == '+' || c == '-'

/-- The bodies that may follow a fence and the name of a language, `cs` being the rest of the line
with the fence. -/
def bodies (cs : List Char) : List (List Char) :=
  let name := cs.takeWhile isLanguageChar
  let after := cs.drop name.length
  let whole := (nextLine? after).toList ++
    (afterHighlights (after.dropWhile (· == ' '))).filterMap nextLine?
  whole ++ (List.range name.length).reverse.flatMap fun n =>
    (afterHighlights (cs.drop n)).filterMap nextLine?

/-- Whether a character may stand in a word of attributes. -/
def isAttributeChar (c : Char) : Bool := c != ' ' && c != '=' && c != '}'

/-- The text after the first quote. -/
def afterQuote? (quote : Char) (cs : List Char) : Option (List Char) :=
  match cs.dropWhile (· != quote) with
  | [] => none
  | _ :: rest => some rest

/-- The text after the value of an attribute. -/
def afterAttribute? : List Char → Option (List Char)
  | '=' :: '"' :: cs => afterQuote? '"' cs
  | '=' :: '\'' :: cs => afterQuote? '\'' cs
  | _ => none

/-- The text after one attribute. -/
def dropAttribute? (cs : List Char) : Option (List Char) :=
  let word := cs.takeWhile isAttributeChar
  let after := cs.drop word.length
  if word.isEmpty then (match cs with | ' ' :: rest => some rest | _ => none)
  else
    match afterAttribute? after with
    | some rest => some rest
    | none =>
      match after with
      | '=' :: rest =>
        let value := rest.takeWhile isAttributeChar
        some (if value.isEmpty then after else rest.drop value.length)
      | _ => some after

/-- The part of attributes, from a closing brace on, that cannot be read. -/
def unreadBrace (cs : List Char) : Nat → List Char
  | 0 => []
  | n + 1 =>
    match dropAttribute? cs with
    | some rest => unreadBrace rest n
    | none => cs.dropWhile (· != '}')

/-- The code of a block with attributes in braces and the text after it, `cs` being the text after
the opening brace. -/
def bracedFence? (fence cs : List Char) : Option (List Char × List Char) :=
  let line := cs.takeWhile (· != '\n')
  match line.reverse, cs.drop line.length with
  | '}' :: attributes, _ :: body =>
    if (unreadBrace attributes.reverse (attributes.length + 1)).isEmpty then
      splitClosing? fence true body
    else none
  | _, _ => none

/-- The code of the block at the start of a line, and the text after it. -/
def matchFence? (cs : List Char) : Option (List Char × List Char) :=
  match cs with
  | [] => none
  | c :: _ =>
    let fence := cs.takeWhile (· == c)
    if (c == '~' || c == grave) && 3 ≤ fence.length then
      let rest := (cs.drop fence.length).dropWhile (· == ' ')
      match rest with
      | '{' :: braced => bracedFence? fence braced
      | _ => (bodies rest).findSome? (splitClosing? fence true)
    else none

/-- A text whose blocks of code are replaced by marks, and the blocks; `skip` characters of the
text belong to what was replaced. -/
def extractFencesFrom (count : Nat) : Nat → Bool → List Char → List Char × List (List Char)
  | _, _, [] => ([], [])
  | skip + 1, _, _ :: cs => extractFencesFrom count skip false cs
  | 0, atStart, c :: cs =>
    let keep (n : Nat) : List Char × List (List Char) :=
      let (text, blocks) := extractFencesFrom n 0 (c == '\n') cs
      (c :: text, blocks)
    if atStart then
      match matchFence? (c :: cs) with
      | some (code, rest) =>
        let (text, blocks) := extractFencesFrom (count + 1) (cs.length - rest.length) false cs
        (('\n' :: mark .raw count) ++ '\n' :: text, codeBlock code :: blocks)
      | none => keep count
    else keep count
termination_by _ _ cs => cs.length

/-- A text whose blocks of code are replaced by marks, and the blocks. -/
def extractFences (cs : List Char) : List Char × List (List Char) :=
  extractFencesFrom 0 0 true cs

end StaticSite.Markdown
