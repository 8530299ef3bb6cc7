import StaticSite.Markdown.Mark
import StaticSite.Text.Blank
import StaticSite.Text.Case
import StaticSite.Text.Digit

/-!
# Lines of articles

An article is read line by line. This module tells what its lines are: how white space is made
even, which lines begin or end a block, and which ones define a reference.
-/

namespace StaticSite.Markdown

/-!
## White space of articles

Before an article is read, line ends become line feeds, tabs become spaces up to the next column
that is a multiple of four, and lines of spaces become empty. Controls that look like marks are
removed, and two line feeds are added at the end.
-/

/-- The width of a tab, and of one level of indentation. -/
def tabWidth : Nat := 4

/-- Line ends as line feeds. -/
def plainLines : List Char → List Char
  | '\r' :: '\n' :: cs => '\n' :: plainLines cs
  | c :: cs => (if c == '\r' then '\n' else c) :: plainLines cs
  | [] => []

/-- Replaces tabs by spaces, from a column on. -/
def expandTabs : Nat → List Char → List Char
  | _, [] => []
  | column, c :: cs =>
    if c == '\t' then
      let width := tabWidth - column % tabWidth
      List.replicate width ' ' ++ expandTabs (column + width) cs
    else c :: expandTabs (if c == '\n' then 0 else column + 1) cs

/-- The lines of a text. -/
def splitLines (cs : List Char) : List (List Char) := Text.splitOnChar '\n' cs

/-- Lines with line feeds between them. -/
def joinLines (ls : List (List Char)) : List Char := ['\n'].intercalate ls

/-- Empties the lines of spaces but for the first and the last. -/
def emptyBlankLines (cs : List Char) : List Char :=
  match splitLines cs with
  | [] => []
  | first :: rest =>
    let inner := rest.dropLast.map fun l => if l.all (· == ' ') then [] else l
    joinLines (first :: inner ++ rest.drop inner.length)

/-- Prepares the text of an article. -/
def normalizeText (cs : List Char) : List Char :=
  let unmarked := cs.filter fun c => c != markStart && c != markEnd
  emptyBlankLines (expandTabs 0 (plainLines unmarked ++ ['\n', '\n']))

/-!
## Lines with a meaning

How the lines are recognized that begin or end a block: headings, rules, items of lists and
quotations. Each function gives the part of the line that the block holds.
-/

/-- Whether a text is a sequence of spaces. -/
def isSpaces (cs : List Char) : Bool := cs.all (· == ' ')

/-- Whether a text is indented by one level. -/
def isIndented (cs : List Char) : Bool := (List.replicate tabWidth ' ').isPrefixOf cs

/-- A line less at most `limit` spaces, when no more stand at its start. -/
def dropIndent? (limit : Nat) (cs : List Char) : Option (List Char) :=
  let spaces := cs.takeWhile (· == ' ')
  if spaces.length ≤ limit then some (cs.drop spaces.length) else none

/-- The levels of indentation of a line. -/
def indentLevel (cs : List Char) : Nat := (cs.takeWhile (· == ' ')).length / tabWidth

/-- The text after a bullet or a number with a point. -/
def afterMarker? (bullet number : Bool) (cs : List Char) : Option (List Char) :=
  let digits := cs.takeWhile Text.isDigit
  match digits, cs.drop digits.length with
  | [], c :: rest => if bullet && (c == '*' || c == '+' || c == '-') then some rest else none
  | _ :: _, '.' :: rest => if number then some rest else none
  | _, _ => none

/-- The text of an item of a list, after its marker and at least one space. -/
def itemText? (bullet number : Bool) (cs : List Char) : Option (List Char) :=
  match (dropIndent? 3 cs).bind (afterMarker? bullet number) with
  | some (' ' :: rest) => some (rest.dropWhile (· == ' '))
  | _ => none

/-- Whether a line is an item that is indented by one level. -/
def isIndentedItem (cs : List Char) : Bool :=
  let spaces := (cs.takeWhile (· == ' ')).length
  tabWidth ≤ spaces && spaces < 2 * tabWidth &&
    match afterMarker? true true (cs.drop spaces) with
    | some (' ' :: _) => true
    | _ => false

/-- The text of a line of a quotation. -/
def quotedText? (cs : List Char) : Option (List Char) :=
  match dropIndent? 3 cs with
  | some ('>' :: ' ' :: rest) => some rest
  | some ('>' :: rest) => some rest
  | _ => none

/-- Whether a text is made of a character and gaps of at most two spaces, `spaces` counting those
of the gap in progress. -/
def isSpaced (c : Char) : Nat → List Char → Bool
  | _, [] => true
  | spaces, d :: rest =>
    if d == c then spaces ≤ 2 && isSpaced c 0 rest
    else d == ' ' && isSpaced c (spaces + 1) rest

/-- Whether a line is a rule: three or more hyphens, underscores or asterisks. -/
def isRule (cs : List Char) : Bool :=
  match dropIndent? 3 cs with
  | some (c :: rest) =>
    (c == '-' || c == '_' || c == '*') && 3 ≤ (c :: rest).count c && isSpaced c 0 (c :: rest)
  | _ => false

/-- Whether a line underlines a heading. -/
def isUnderline (cs : List Char) : Bool :=
  let marks := cs.takeWhile fun c => c == '=' || c == '-'
  !marks.isEmpty && isSpaces (cs.drop marks.length)

/-- The text of a heading up to the hashes at its end; an escaped character belongs to the text.
A backslash at the end of the line escapes nothing, and the line is no heading. -/
def headingBody? : List Char → Option (List Char)
  | [] => some []
  | ['\\'] => none
  | '\\' :: c :: cs => (headingBody? cs).map fun body => '\\' :: c :: body
  | c :: cs =>
    if (c :: cs).all (· == '#') then some []
    else (headingBody? cs).map fun body => c :: body

/-- The level and the text of a heading that begins with hashes. -/
def heading? (line : List Char) : Option (Nat × List Char) :=
  let level := min 6 (line.takeWhile (· == '#')).length
  if level == 0 then none
  else (headingBody? (line.drop level)).map fun body => (level, Text.stripList body)

/-!
## Reference definitions

A reference definition gives a name to an address: `[name]: address "title"`. `findDefinition?`
looks for one at the start of any line of a block.
-/

/-- What a reference stands for. -/
structure Reference where
  address : List Char
  title : Option (List Char)
deriving Repr

/-- The references of an article by name; a later definition replaces an earlier one. -/
abbrev References := List (List Char × Reference)

/-- Adds a definition. -/
def References.define (rs : References) (name : List Char) (r : Reference) : References :=
  (name, r) :: rs

/-- A definition in a block: the text before it, its parts, and the text after it. -/
structure Definition where
  before : List Char
  name : List Char
  reference : Reference
  after : List Char

/-- The last place of a character on the current line that only spaces follow. -/
def closingTitle? (close : Char) (cs : List Char) : Option (List Char × List Char) :=
  let line := cs.takeWhile (· != '\n')
  match (line.reverse.dropWhile (· == ' ')) with
  | c :: rest => if c == close then some (rest.reverse, cs.drop line.length) else none
  | [] => none

/-- A title up to the end of its line, and the text from there on. -/
def title? : List Char → Option (List Char × List Char)
  | '"' :: cs => closingTitle? '"' cs
  | '\'' :: cs => closingTitle? '\'' cs
  | '(' :: cs => closingTitle? ')' cs
  | _ => none

/-- A title or nothing, up to the end of the line. -/
def titleOrEnd? (cs : List Char) : Option (Option (List Char) × List Char) :=
  match title? cs with
  | some (title, rest) => some (some title, rest)
  | none =>
    match cs with
    | [] => some (none, [])
    | c :: _ => if c == '\n' then some (none, cs) else none

/-- What follows the address of a definition: perhaps a title, on its line or the next. -/
def afterAddress? (cs : List Char) : Option (Option (List Char) × List Char) :=
  let cs := cs.dropWhile (· == ' ')
  let below :=
    match cs with
    | '\n' :: rest => titleOrEnd? (rest.dropWhile (· == ' '))
    | _ => none
  match below with
  | some r => some r
  | none => titleOrEnd? cs

/-- The address of a definition, shortened from the end as far as what follows requires. -/
def address? (cs : List Char) : Nat → Option (List Char × Option (List Char) × List Char)
  | 0 => none
  | n + 1 =>
    match afterAddress? (cs.drop (n + 1)) with
    | some (title, rest) => some (cs.take (n + 1), title, rest)
    | none => address? cs n

/-- The definition at the start of a line. -/
def definitionAt? (before cs : List Char) : Option Definition :=
  match dropIndent? 3 cs with
  | some ('[' :: body) =>
    let name := body.takeWhile fun c => c != '[' && c != ']'
    match body.drop name.length with
    | ']' :: ':' :: rest =>
      let rest := rest.dropWhile (· == ' ')
      let rest := match rest with
        | '\n' :: below => below.dropWhile (· == ' ')
        | _ => rest
      let word := rest.takeWhile fun c => !Text.isBlank c
      (address? rest word.length).map fun (address, title, after) =>
        let address := Text.dropRightWhile (· == '>') (address.dropWhile (· == '<'))
        { before
          name := Text.lowerList (Text.stripList name)
          reference := ⟨address, title.filter fun t => !t.isEmpty⟩
          after }
    | _ => none
  | _ => none

/-- The first definition of a block, `before` being the text before, last character first. -/
def findDefinitionFrom? (before : List Char) (atStart : Bool) : List Char → Option Definition
  | [] => none
  | c :: cs =>
    let found := if atStart then definitionAt? before.reverse (c :: cs) else none
    match found with
    | some d => some d
    | none => findDefinitionFrom? (c :: before) (c == '\n') cs

/-- The first definition of a block. -/
def findDefinition? (block : List Char) : Option Definition := findDefinitionFrom? [] true block

end StaticSite.Markdown
