import StaticSite.Markdown.Mark
import StaticSite.Text.Blank
import StaticSite.Text.Case

/-!
# Tags in articles

How a piece of HTML is recognized inside an article: `startTag?` reads a start tag, `endTag?` an end
tag. A grave accent ends a tag, since code may begin there.
-/

namespace StaticSite.Markdown

/-- Whether a character ends the name of a tag. -/
def endsTagName (c : Char) : Bool :=
  c == '\t' || c == '\n' || c == '\r' || c == '\x0c' || c == ' ' || c == '/' || c == '>' ||
    c.toNat == 0

/-- Drops blanks and the slashes that do not end a tag, keeping track of the last character. -/
def dropGap (prev : Char) : List Char → Char × List Char
  | [] => (prev, [])
  | c :: cs =>
    if Text.isBlank c then dropGap c cs
    else if c == '/' && cs.head? != some '>' then dropGap c cs
    else (prev, c :: cs)

/-- The text after the value at the start of a text, quoted or bare. -/
def afterValueOnly? (isBare : Char → Bool) : List Char → Option (List Char)
  | [] => some []
  | c :: cs =>
    if c == '\'' || c == '"' then
      match cs.dropWhile (· != c) with
      | [] => none
      | _ :: rest => some rest
    else some ((c :: cs).dropWhile isBare)

/-- The text after an equals sign and a value. A quote that is not closed begins no value: then the
value is empty where a blank precedes it, or begins with the last of several equals signs. -/
def afterEquals? (isBare : Char → Bool) (cs : List Char) : Option (List Char) :=
  let cs := cs.dropWhile Text.isBlank
  let signs := cs.takeWhile (· == '=')
  let after := cs.drop signs.length
  let gap := after.takeWhile Text.isBlank
  let value := after.drop gap.length
  if signs.isEmpty then none
  else
    match afterValueOnly? isBare value with
    | some rest => some rest
    | none =>
      match gap.getLast? with
      | some c => some (c :: value)
      | none => if signs.length < 2 then none else some (('=' :: value).dropWhile isBare)

/-- Drops commas and the blanks before them. -/
def dropCommas : Nat → List Char → List Char
  | 0, cs => cs
  | n + 1, cs =>
    match cs.dropWhile Text.isBlank with
    | ',' :: rest => dropCommas n rest
    | _ => cs

/-- The character before a suffix of a text. -/
def charBefore (prev : Char) (cs rest : List Char) : Char :=
  ((cs.take (cs.length - rest.length)).getLast?).getD prev

/-- Drops the attribute at the start of a text. -/
def dropTagAttribute? (strict : Bool) (prev : Char) (cs : List Char) :
    Option (Char × List Char) :=
  let starts (c : Char) : Bool :=
    !(Text.isBlank c || c == '/' || c == '>' || (strict && c == grave))
  let follows := prev == '\'' || prev == '"' || prev == '/' || Text.isBlank prev
  match cs with
  | [] => none
  | c :: rest =>
    if follows && starts c then
      let isName (d : Char) : Bool := !(Text.isBlank d || d == '/' || d == '=' || d == '>')
      let isBare (d : Char) : Bool := !(Text.isBlank d || d == '>' || (strict && d == grave))
      let named := rest.dropWhile isName
      let valued :=
        match afterEquals? isBare named with
        | some after => if strict then dropCommas after.length after else after
        | none => named
      some (dropGap (charBefore prev cs valued) valued)
    else none

/-- Drops attributes. -/
def dropTagAttributes (strict : Bool) : Nat → Char → List Char → List Char
  | 0, _, cs => cs
  | n + 1, prev, cs =>
    match dropTagAttribute? strict prev cs with
    | some (prev, rest) => dropTagAttributes strict n prev rest
    | none => cs

/-- The text after the name and the attributes of a tag, `cs` being the text after its less-than
sign. -/
def afterTagBody (cs : List Char) : List Char :=
  let named := cs.dropWhile fun c => !(endsTagName c || c == grave)
  let gap := named.dropWhile fun c => Text.isBlank c || c == '/'
  let prev := charBefore (charBefore ' ' cs named) named gap
  (dropTagAttributes true gap.length prev gap).dropWhile Text.isBlank

/-- The text after a start tag, `cs` being the text after its less-than sign, or nothing where the
tag is not complete. -/
def afterStartTag? (cs : List Char) : Option (List Char) :=
  match afterTagBody cs with
  | [] => none
  | c :: rest =>
    if c == '>' then some rest
    else if c == '/' then (if rest.head? == some '>' then some (rest.drop 1) else none)
    else if c.isAlpha || c == '=' then none
    else some (c :: rest)

/-- A start tag: its name, its source, and whether it closes itself. -/
structure StartTag where
  name : List Char
  source : List Char
  closed : Bool
deriving Repr

/-- What stands at a less-than sign that a letter follows. -/
inductive TagMatch where
  | none
  | text (source rest : List Char)
  | tag (tag : StartTag) (rest : List Char)

/-- The start tag at a less-than sign, `cs` being the text after the sign. -/
def startTag? (cs : List Char) : TagMatch :=
  match afterStartTag? cs with
  | .none => .none
  | some rest =>
    let source := '<' :: cs.take (cs.length - rest.length)
    let name := cs.takeWhile fun c => !endsTagName c
    let (prev, gap) := dropGap (name.getLast?.getD ' ') (cs.drop name.length)
    let body := dropTagAttributes false gap.length prev gap
    let ending := Text.stripList (body.take (body.length - rest.length))
    if ending == ['>'] then .tag ⟨Text.lowerList name, source, false⟩ rest
    else if ending == ['/', '>'] then .tag ⟨Text.lowerList name, source, true⟩ rest
    else .text source rest

/-- Whether a character may stand in the name of a well formed end tag. -/
def isEndNameChar (c : Char) : Bool :=
  c.isAlphanum || c == '-' || c == '.' || c == ':' || c == '_'

/-- The name in a well formed end tag and the text after the tag, `cs` being the text after the
slash. -/
def plainEndTag? (cs : List Char) : Option (List Char × List Char) :=
  let cs := cs.dropWhile Text.isBlank
  let name := cs.takeWhile isEndNameChar
  if (name.headD ' ').isAlpha then
    match (cs.drop name.length).dropWhile Text.isBlank with
    | '>' :: rest => some (Text.lowerList name, rest)
    | _ => none
  else none

/-- The name in an end tag with something after the name, and the text after the tag. -/
def looseEndTag? (cs : List Char) : Option (List Char × List Char) :=
  let name := cs.takeWhile fun c => !endsTagName c
  if (name.headD ' ').isAlpha then
    let gap := (dropGap ' ' (cs.drop name.length)).2
    match gap.dropWhile (· != '>') with
    | _ :: rest => some (Text.lowerList name, rest)
    | [] => none
  else none

end StaticSite.Markdown
