import StaticSite.Markdown.Mark
import StaticSite.Markdown.TagSyntax

/-!
# HTML blocks in articles

A block element that begins a line is passed on as it is, up to its end tag, and so are comments,
declarations and instructions that begin a line. `extractHtml` takes them out of a text and leaves
a raw mark, followed by a blank line, in the place of each.

The text is read in two passes: the first stops at a piece that is not complete, and the second
takes such a piece for text. Lines are counted from the start of the article, and the starts of
those that have been looked at are remembered, in both passes.
-/

namespace StaticSite.Markdown

/-- An article that is being read. -/
structure Extractor where
  /-- The pieces of the resulting text, last first. -/
  pieces : List (List Char) := []
  /-- The blocks that were taken out, last first. -/
  blocks : List (List Char) := []
  /-- The number of the next block. -/
  count : Nat
  /-- Whether a block is being collected. -/
  inBlock : Bool := false
  /-- Whether the line of a block's end is not yet over. -/
  inTail : Bool := false
  /-- The elements that are open inside the block, innermost first. -/
  openTags : List (List Char) := []
  /-- The block so far. -/
  collected : List Char := []
  /-- The element whose content is no HTML. -/
  scriptTag : Option (List Char) := none
  /-- The number of the current line, from one. -/
  line : Nat := 1
  /-- The place in the current line. -/
  offset : Nat := 0
  /-- The starts of the lines that have been looked at. -/
  lineStarts : List Nat := [0]
  /-- The text of the current pass. -/
  source : List Char := []

namespace Extractor

/-- Moves the place past some text. -/
def advance (x : Extractor) (passed : List Char) : Extractor :=
  let breaks := passed.count '\n'
  if breaks == 0 then { x with offset := x.offset + passed.length }
  else
    { x with
      line := x.line + breaks
      offset := (passed.reverse.takeWhile (· != '\n')).length }

/-- The place after the next line feed from a place on. -/
def nextStart (source : List Char) (from_ : Nat) : Nat :=
  let rest := source.drop from_
  let line := rest.takeWhile (· != '\n')
  if line.length == rest.length then source.length + 1 else from_ + line.length + 1

/-- Remembers the starts of further lines. -/
def extendStarts (source : List Char) : Nat → List Nat → List Nat
  | 0, starts => starts
  | n + 1, starts => extendStarts source n (starts ++ [nextStart source (starts.getLastD 0)])

/-- Remembers the starts of all lines up to the current one. -/
def lookAtLine (x : Extractor) : Extractor :=
  { x with lineStarts := extendStarts x.source (x.line - x.lineStarts.length) x.lineStarts }

/-- The start of the current line. -/
def lineStart (x : Extractor) : Nat := x.lineStarts.getD (x.line - 1) 0

/-- Whether at most three blanks stand before the place in its line. -/
def atLineStart (x : Extractor) : Extractor × Bool :=
  if x.offset == 0 then (x, true)
  else if 3 < x.offset then (x, false)
  else
    let x := x.lookAtLine
    (x, ((x.source.drop x.lineStart).take x.offset).all Text.isBlank)

/-- Adds a piece to the resulting text. -/
def write (x : Extractor) (piece : List Char) : Extractor := { x with pieces := piece :: x.pieces }

/-- Takes a block out, leaving its mark. -/
def store (x : Extractor) (block : List Char) : Extractor :=
  { x with
    blocks := block :: x.blocks
    count := x.count + 1
    pieces := mark .raw x.count :: x.pieces }

/-- Adds to the block that is being collected. -/
def collect (x : Extractor) (data : List Char) : Extractor :=
  { x with collected := x.collected ++ data }

/-- Text. -/
def text (x : Extractor) (data : List Char) : Extractor :=
  let x := if x.inTail && data.contains '\n' then { x with inTail := false } else x
  if x.inBlock then x.collect data else x.write data

/-- Whether a text begins with two line ends, apart from spaces. -/
def startsBlank (cs : List Char) : Bool :=
  match cs.dropWhile (· == ' ') with
  | '\n' :: rest => (rest.dropWhile (· == ' ')).head? == some '\n'
  | _ => false

/-- The text after a piece at the place. -/
def after (x : Extractor) (piece : List Char) : List Char :=
  x.source.drop (x.lineStart + x.offset + piece.length)

/-- A piece that is complete by itself. -/
def single (x : Extractor) (piece : List Char) (isBlock : Bool) : Extractor :=
  if x.inBlock || x.inTail then x.collect piece
  else
    let (x, starts) := x.atLineStart
    if starts && isBlock then
      let x := x.lookAtLine
      let blank := startsBlank (x.after piece)
      let x := { x with inTail := !blank }
      let last := x.pieces.headD []
      let single := last.getLast? == some '\n' && last.dropLast.getLast? != some '\n'
      let x := if single then x.write ['\n'] else x
      (x.store (if blank then piece ++ ['\n'] else piece)).write ['\n', '\n']
    else x.write piece

/-- Whether the content of an element is no HTML. -/
def isScript (name : List Char) : Bool := name == "script".toList || name == "style".toList

/-- Whether a name is that of a block. -/
def isBlock (name : List Char) : Bool := isBlockTag (String.ofList name)

/-- A start tag. -/
def startTag (x : Extractor) (tag : StartTag) : Extractor :=
  if tag.closed then x.single tag.source (isBlock tag.name)
  else
    let x := if isScript tag.name then { x with scriptTag := some tag.name } else x
    if tag.name == "hr".toList then x.single tag.source (isBlock tag.name)
    else
      let (x, begins) :=
        if !isBlock tag.name then (x, false)
        else if x.inTail then (x, true)
        else x.atLineStart
      let x := if begins then { x with inBlock := true }.write ['\n'] else x
      if x.inBlock then
        { x with openTags := tag.name :: x.openTags }.collect tag.source
      else
        let x := x.write tag.source
        if isScript tag.name then { x with scriptTag := none } else x

/-- The source of the end tag at the place. -/
def endTagSource (x : Extractor) (name : List Char) : List Char :=
  let rest := x.source.drop (x.lineStart + x.offset)
  let source := rest.takeWhile (· != '>')
  if source.length < rest.length then source ++ ['>'] else '<' :: '/' :: name ++ ['>']

/-- Ends a block whose last element is closed. -/
def finishBlock (x : Extractor) (source : List Char) : Extractor :=
  let blank := startsBlank (x.after source)
  let block := if blank then x.collected ++ ['\n'] else x.collected
  let x := { x with inTail := x.inTail || !blank, inBlock := false, collected := [] }
  (x.store block).write ['\n', '\n']

/-- An end tag. -/
def endTag (x : Extractor) (name : List Char) : Extractor :=
  let x := x.lookAtLine
  let source := x.endTagSource name
  if x.inBlock then
    let x := x.collect source
    let x :=
      if x.openTags.contains name then
        { x with openTags := (x.openTags.dropWhile (· != name)).drop 1 }
      else x
    if x.openTags.isEmpty then x.finishBlock source else x
  else x.write source

/-- What the reading of a piece comes to: the text after it, or nothing when it is not complete. -/
abbrev Reading := Extractor × Option (List Char)

/-- Reads an end tag, `cs` being the text from its less-than sign on. -/
def readEndTag (x : Extractor) (cs : List Char) : Reading :=
  let body := cs.drop 2
  let piece := cs.takeWhile (· != '>') ++ ['>']
  if !cs.contains '>' then (x, none)
  else
    let beyond := cs.drop piece.length
    match plainEndTag? body with
    | some (name, rest) =>
      if (x.scriptTag.map (· != name)).getD false then (x.text piece, some beyond)
      else ({ x.endTag name with scriptTag := none }, some rest)
    | none =>
      if x.scriptTag.isSome then (x.text piece, some beyond)
      else
        match looseEndTag? body with
        | some (name, rest) => (x.endTag name, some rest)
        | none =>
          if piece.length == 3 then (x.text piece, some beyond)
          else (x.single piece false, some beyond)

/-- The text after the first match of a pattern. -/
def afterFirst? (pattern : List Char) (cs : List Char) : Option (List Char × List Char) :=
  Text.splitAt? pattern cs

/-- The text before the end of a comment, and the text after the end. Blanks may stand before the
greater-than sign. -/
def splitComment? : List Char → Option (List Char × List Char)
  | [] => none
  | '-' :: '-' :: cs =>
    match cs.dropWhile Text.isBlank with
    | '>' :: rest => some ([], rest)
    | _ => (splitComment? ('-' :: cs)).map fun (data, rest) => ('-' :: data, rest)
  | c :: cs => (splitComment? cs).map fun (data, rest) => (c :: data, rest)
termination_by cs => cs.length

/-- Reads a comment, `cs` being the text after its start. -/
def readComment (x : Extractor) (cs : List Char) : Reading :=
  match splitComment? cs with
  | some (data, rest) => (x.single ("<!--".toList ++ data ++ "-->".toList) true, some rest)
  | none => (x, none)

/-- Reads an instruction, `cs` being the text after its start. -/
def readInstruction (x : Extractor) (cs : List Char) : Reading :=
  let (x, starts) := x.atLineStart
  if starts || x.inTail then
    match afterFirst? ['?', '>'] cs with
    | some (data, rest) => (x.single ('<' :: '?' :: data ++ ['?', '>']) true, some rest)
    | none => (x, none)
  else (x.text ['<', '?'], some cs)

/-- Reads what ends at the next greater-than sign. -/
def readBogus (x : Extractor) (cs : List Char) (isBlock : Bool) : Reading :=
  match afterFirst? ['>'] cs with
  | some (data, rest) => (x.single ('<' :: '!' :: data ++ ['>']) isBlock, some rest)
  | none => (x, none)

/-- Reads a declaration, `cs` being the text after its start. -/
def readDeclaration (x : Extractor) (cs : List Char) : Reading :=
  let (x, starts) := x.atLineStart
  if starts || x.inTail then
    match Text.stripPrefix? "[CDATA[".toList cs with
    | some body =>
      match afterFirst? [']', ']', '>'] body with
      | some (data, rest) =>
        (x.single ("<![CDATA[".toList ++ data ++ "]]>".toList) true, some rest)
      | none => (x, none)
    | none =>
      let word := (cs.take 7).map Char.toLower
      readBogus x cs (word == "doctype".toList)
  else (x.text ['<', '!'], some cs)

/-- Reads a piece that begins with a less-than sign. -/
def readAngle (x : Extractor) (cs : List Char) : Reading :=
  let body := cs.drop 1
  match body with
  | [] => (x, none)
  | c :: rest =>
    if c.isAlpha then
      match startTag? body with
      | .none => (x.text ['<'], some body)
      | .text source rest => (x.text source, some rest)
      | .tag tag rest => (x.startTag tag, some rest)
    else if c == '/' then x.readEndTag cs
    else if c == '!' then
      match Text.stripPrefix? ['-', '-'] rest with
      | some comment => x.readComment comment
      | none => x.readDeclaration rest
    else if c == '?' then x.readInstruction rest
    else (x.text ['<'], some body)

/-- Whether a character is a letter or digit, a hyphen or a point. -/
def isReferenceChar (c : Char) : Bool := c.isAlphanum || c == '-' || c == '.'

/-- Whether a character is a hexadecimal digit. -/
def isHexDigit (c : Char) : Bool :=
  c.isDigit || ('a' ≤ c && c ≤ 'f') || ('A' ≤ c && c ≤ 'F')

/-- The body of a numeric reference, and the text after it, `cs` being the text after the hash. A
character that is no hexadecimal digit must follow the digits. -/
def numberBody? (cs : List Char) : Option (List Char × List Char) :=
  let (lead, digits, isDigit) : List Char × List Char × (Char → Bool) :=
    match cs with
    | 'x' :: rest => (['x'], rest, isHexDigit)
    | 'X' :: rest => (['X'], rest, isHexDigit)
    | _ => ([], cs, Char.isDigit)
  let number := digits.takeWhile isDigit
  match digits.drop number.length with
  | c :: rest =>
    if number.isEmpty || isHexDigit c then none
    else some (lead ++ number, if c == ';' then rest else c :: rest)
  | [] => none

/-- What the reading of an ampersand comes to. -/
inductive AmpersandReading where
  | read (x : Extractor) (rest : List Char)
  | stop (x : Extractor) (rest : List Char)

/-- Reads a reference or an ampersand, `cs` being the text after it. -/
def readAmpersand (x : Extractor) (cs : List Char) : AmpersandReading :=
  match cs with
  | '#' :: body =>
    match numberBody? body with
    | some (name, rest) => .read (x.single ('&' :: '#' :: name ++ [';']) false) rest
    | none =>
      if cs.contains ';' then .stop ((x.text ['&', '#']).advance ['&', '#']) body
      else .stop x ('&' :: cs)
  | _ =>
    let name := cs.takeWhile isReferenceChar
    match cs.drop name.length with
    | ';' :: rest =>
      if (name.headD ' ').isAlpha then .read (x.single ('&' :: name ++ [';']) false) rest
      else .read (x.text ['&']) cs
    | _ => if cs.isEmpty then .stop x ['&'] else .read (x.text ['&']) cs

/-- Whether the end tag of an element stands at the start of a text. -/
def isEndOf (name cs : List Char) : Bool :=
  match cs with
  | '<' :: '/' :: rest =>
    match plainEndTag? rest with
    | some (found, _) => found == name
    | none => false
  | _ => false

/-- The text before the end tag of an element, and the text from there on. -/
def splitScript? (name : List Char) : List Char → Option (List Char × List Char)
  | [] => none
  | c :: cs =>
    if isEndOf name (c :: cs) then some ([], c :: cs)
    else (splitScript? name cs).map fun (data, rest) => (c :: data, rest)

/-- The text that holds nothing of interest, and the text from there on. -/
def splitPlain? (x : Extractor) (cs : List Char) : Option (List Char × List Char) :=
  match x.scriptTag with
  | some name => splitScript? name cs
  | none =>
    let plain := cs.takeWhile fun c => c != '<' && c != '&'
    some (plain, cs.drop plain.length)

/-- What is taken for text where a piece is not complete. -/
def incomplete (cs : List Char) : List Char :=
  let body := cs.drop 1
  if body.contains '>' then '<' :: body.takeWhile (· != '>') ++ ['>']
  else if body.contains '<' then '<' :: body.takeWhile (· != '<')
  else cs.take 1

/-- Reads a text up to a piece that is not complete, or in the last pass to its end. The result
holds what was not read. -/
def readText (isLast : Bool) : Nat → Extractor → List Char → Extractor × List Char
  | 0, x, cs => (x, cs)
  | n + 1, x, cs =>
    match x.splitPlain? cs with
    | none => (x, cs)
    | some (plain, rest) =>
      let x := if plain.isEmpty then x else (x.text plain).advance plain
      match rest with
      | [] => (x, [])
      | '&' :: body =>
        match x.readAmpersand body with
        | .read x next => readText isLast n (x.advance (rest.take (rest.length - next.length))) next
        | .stop x next => (x, next)
      | _ =>
        match x.readAngle rest with
        | (x, some next) =>
          readText isLast n (x.advance (rest.take (rest.length - next.length))) next
        | (x, none) =>
          if isLast && rest.length != 1 then
            let skipped := incomplete rest
            let next := rest.drop skipped.length
            readText isLast n ((x.text skipped).advance skipped) next
          else (x, rest)

/-- One pass over a text. -/
def pass (isLast : Bool) (x : Extractor) (cs : List Char) : Extractor × List Char :=
  readText isLast (2 * cs.length + 2) { x with source := cs } cs

/-- Reads the rest of the article, and ends it. -/
def finish (x : Extractor) (cs : List Char) : Extractor :=
  let (x, rest) := x.pass true cs
  let x := if rest.isEmpty then x else x.text rest
  if x.collected.isEmpty then x else { x.store x.collected with collected := [] }

end Extractor

/-- A text whose blocks of HTML are replaced by marks, numbered from `count` on, and the blocks. -/
def extractHtml (count : Nat) (cs : List Char) : List Char × List (List Char) :=
  let (x, rest) := Extractor.pass false { count } cs
  let x := x.finish rest
  (x.pieces.reverse.flatten, x.blocks.reverse)

end StaticSite.Markdown
