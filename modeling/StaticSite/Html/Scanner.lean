import StaticSite.Html.Tree
import StaticSite.Text.Blank
import StaticSite.Text.Case

/-!
# Reading tokens

A scanner reads a document character by character, knowing the tags that are allowed.

* A tag that is not allowed leaves an empty run of text in its place.
* A less-than sign that begins no tag is text, and so is a tag that the document ends in the
  middle of, as far as its name, an attribute's name or a bare value was being read.
* A closing tag whose name begins with no letter is a comment when it happens to spell an allowed
  name, and text otherwise.
* Between the tags of a text area everything is text.

`scan` is the list of tokens of a document.
-/

namespace StaticSite.Html

/-- A tag that is being read; names and the last attribute's value are reversed. -/
structure Draft where
  closing : Bool
  name : List Char
  attributes : List (List Char × List Char) := []
deriving Repr

/-- The replacement for a null character. -/
def visible (c : Char) : Char := if c.toNat == 0 then Char.ofNat 0xFFFD else c

/-- The small letter of an ASCII letter. -/
def lowerAscii (cs : List Char) : String := String.ofList (cs.map Char.toLower)

/-- Starts an attribute. -/
def Draft.open (d : Draft) (c : Char) : Draft :=
  { d with attributes := ([visible c], []) :: d.attributes }

/-- Adds a character to the name of the last attribute. -/
def Draft.pushName (d : Draft) (c : Char) : Draft :=
  match d.attributes with
  | (name, value) :: rest => { d with attributes := (visible c :: name, value) :: rest }
  | [] => d

/-- Adds a character to the value of the last attribute. -/
def Draft.pushValue (d : Draft) (c : Char) : Draft :=
  match d.attributes with
  | (name, value) :: rest => { d with attributes := (name, visible c :: value) :: rest }
  | [] => d

/-- The attributes of a tag, in order. -/
def Draft.attributeList (d : Draft) : List Attribute :=
  distinctAttributes (d.attributes.reverse.map fun (name, value) =>
    (lowerAscii name.reverse, String.ofList value.reverse))

/-- Where a scanner is in a document. -/
inductive Place where
  | data
  | text (run : List Char)
  | spaces (run : List Char)
  | tagOpen
  | endTagOpen
  | tagName (draft : Draft)
  | beforeName (draft : Draft)
  | name (draft : Draft)
  | afterName (draft : Draft)
  | beforeValue (draft : Draft)
  | value (quote : Option Char) (draft : Draft)
  | afterValue (draft : Draft)
  | slash (draft : Draft)
  | bogus (closing : Bool) (data : List Char)
  | declaration (seen : List Char)
  | doctype
  | commentStart
  | commentStartDash
  | comment
  | commentDash
  | commentEnd
  | commentBang
  | areaLess
  | areaEndOpen
  | areaEndName (buffer : List Char)
deriving Repr

/-- A scanner at work: its place, whether it is inside a text area, the characters since the last
tag began and the tokens read so far, both reversed. -/
structure Scanner where
  place : Place := .data
  inArea : Bool := false
  source : List Char := []
  tokens : List Token := []

namespace Scanner

/-- Moves to a place. -/
def goto (s : Scanner) (p : Place) : Scanner := { s with place := p }

/-- Adds a token and moves to a place. -/
def emit (s : Scanner) (t : Token) (p : Place := .data) : Scanner :=
  { s with tokens := t :: s.tokens, place := p }

/-- Ends a tag. -/
def finishTag (allowed : String → Bool) (s : Scanner) (d : Draft) : Scanner :=
  let written := String.ofList d.name.reverse
  if !allowed (Text.lower written) then { s.emit (.text []) with inArea := false }
  else
    let name := lowerAscii d.name.reverse
    if d.closing then { s.emit (.endTag name) with inArea := false }
    else { s.emit (.startTag ⟨name, d.attributeList⟩) with inArea := name == "textarea" }

/-- The text read since the last tag began. -/
def sourceToken (s : Scanner) : Token := .text s.source.reverse

/-- Ends a comment that began as a tag. -/
def finishBogus (allowed : String → Bool) (s : Scanner) (closing : Bool) (data : List Char) :
    Scanner :=
  if closing && !allowed (Text.strip (Text.lower (String.ofList data.reverse))) then
    s.emit s.sourceToken
  else s.emit .comment

/-- Reads a character of text. -/
def atData (s : Scanner) (c : Char) : Scanner :=
  if c == '&' then s.emit (.text ['&'])
  else if c == '<' then
    if s.inArea then s.goto .areaLess else { s with source := ['<'], place := .tagOpen }
  else if c.toNat == 0 then
    if s.inArea then s.emit (.text [visible c]) else s.emit (.text [c])
  else if isSpace c then s.goto (.spaces [c])
  else s.goto (.text [c])

/-- Reads the character after a less-than sign. -/
def atTagOpen (s : Scanner) (c : Char) : Scanner :=
  if c == '!' then s.goto (.declaration [])
  else if c == '/' then s.goto .endTagOpen
  else if c.isAlpha then s.goto (.tagName { closing := false, name := [c] })
  else if c == '>' then s.emit (.text ['<', '>'])
  else if c == '?' then s.goto (.bogus false [c])
  else atData (s.emit (.text ['<'])) c

/-- Reads a character of a comment that began as a tag. -/
def atBogus (allowed : String → Bool) (s : Scanner) (closing : Bool) (data : List Char)
    (c : Char) : Scanner :=
  if c == '>' then finishBogus allowed s closing data
  else s.goto (.bogus closing (visible c :: data))

/-- Reads the character after a less-than sign and a slash. -/
def atEndTagOpen (allowed : String → Bool) (s : Scanner) (c : Char) : Scanner :=
  if c.isAlpha then s.goto (.tagName { closing := true, name := [c] })
  else if c == '>' then s.goto .data
  else atBogus allowed s true [] c

/-- Reads a character where the name of an attribute may begin. -/
def atBeforeName (allowed : String → Bool) (s : Scanner) (d : Draft) (c : Char) : Scanner :=
  if isSpace c then s.goto (.beforeName d)
  else if c == '>' then finishTag allowed s d
  else if c == '/' then s.goto (.slash d)
  else s.goto (.name (Draft.open d c))

/-- Reads a character of a tag's name. -/
def atTagName (allowed : String → Bool) (s : Scanner) (d : Draft) (c : Char) : Scanner :=
  if isSpace c then s.goto (.beforeName d)
  else if c == '>' then finishTag allowed s d
  else if c == '/' then s.goto (.slash d)
  else s.goto (.tagName { d with name := visible c :: d.name })

/-- Reads a character of an attribute's name. -/
def atName (allowed : String → Bool) (s : Scanner) (d : Draft) (c : Char) : Scanner :=
  if c == '=' then s.goto (.beforeValue d)
  else if c == '>' then finishTag allowed s d
  else if isSpace c then s.goto (.afterName d)
  else if c == '/' then s.goto (.slash d)
  else s.goto (.name (Draft.pushName d c))

/-- Reads a character after an attribute's name. -/
def atAfterName (allowed : String → Bool) (s : Scanner) (d : Draft) (c : Char) : Scanner :=
  if isSpace c then s.goto (.afterName d)
  else if c == '=' then s.goto (.beforeValue d)
  else if c == '>' then finishTag allowed s d
  else if c == '/' then s.goto (.slash d)
  else s.goto (.name (Draft.open d c))

/-- Reads a character of a bare value. -/
def atBareValue (allowed : String → Bool) (s : Scanner) (d : Draft) (c : Char) : Scanner :=
  if isSpace c then s.goto (.beforeName d)
  else if c == '>' then finishTag allowed s d
  else s.goto (.value none (Draft.pushValue d c))

/-- Reads a character where a value may begin. -/
def atBeforeValue (allowed : String → Bool) (s : Scanner) (d : Draft) (c : Char) : Scanner :=
  if isSpace c then s.goto (.beforeValue d)
  else if c == '"' || c == '\'' then s.goto (.value (some c) d)
  else atBareValue allowed s d c

/-- Reads a character after a quoted value. -/
def atAfterValue (allowed : String → Bool) (s : Scanner) (d : Draft) (c : Char) : Scanner :=
  atBeforeName allowed s d c

/-- Reads a character after a slash inside a tag. -/
def atSlash (allowed : String → Bool) (s : Scanner) (d : Draft) (c : Char) : Scanner :=
  if c == '>' then finishTag allowed s d else atBeforeName allowed s d c

/-- Reads a character of a declaration, `seen` being what came before, reversed. -/
def atDeclaration (allowed : String → Bool) (s : Scanner) (seen : List Char) (c : Char) :
    Scanner :=
  let seen := c :: seen
  let word := lowerAscii seen.reverse
  if word == "--" then s.goto .commentStart
  else if word == "doctype" then s.goto .doctype
  else if word == "-" || "doctype".toList.take seen.length == word.toList then
    s.goto (.declaration seen)
  else atBogus allowed (s.goto .data) false (seen.drop 1) c

/-- Ends a comment. -/
def finishComment (s : Scanner) : Scanner := s.emit .comment

/-- Reads a character of an end tag inside a text area. -/
def atAreaEndName (allowed : String → Bool) (s : Scanner) (buffer : List Char) (c : Char) :
    Scanner :=
  let complete := lowerAscii buffer.reverse == "textarea"
  let draft : Draft := { closing := true, name := buffer }
  if complete && isSpace c then s.goto (.beforeName draft)
  else if complete && c == '/' then s.goto (.slash draft)
  else if complete && c == '>' then finishTag allowed s draft
  else if c.isAlpha then s.goto (.areaEndName (c :: buffer))
  else atData (s.emit (.text ('<' :: '/' :: buffer.reverse))) c

/-- Reads a character at the place of the scanner. -/
def read (allowed : String → Bool) (s : Scanner) (c : Char) : Scanner :=
  match s.place with
  | .data => atData s c
  | .text run =>
    if c == '&' || c == '<' || c.toNat == 0 then atData (s.emit (.text run.reverse)) c
    else s.goto (.text (c :: run))
  | .spaces run =>
    if isSpace c then s.goto (.spaces (c :: run)) else atData (s.emit (.spaces run.reverse)) c
  | .tagOpen => atTagOpen s c
  | .endTagOpen => atEndTagOpen allowed s c
  | .tagName d => atTagName allowed s d c
  | .beforeName d => atBeforeName allowed s d c
  | .name d => atName allowed s d c
  | .afterName d => atAfterName allowed s d c
  | .beforeValue d => atBeforeValue allowed s d c
  | .value none d => atBareValue allowed s d c
  | .value (some quote) d =>
    if c == quote then s.goto (.afterValue d)
    else s.goto (.value (some quote) (Draft.pushValue d c))
  | .afterValue d => atAfterValue allowed s d c
  | .slash d => atSlash allowed s d c
  | .bogus closing data => atBogus allowed s closing data c
  | .declaration seen => atDeclaration allowed s seen c
  | .doctype => if c == '>' then s.goto .data else s
  | .commentStart =>
    if c == '-' then s.goto .commentStartDash
    else if c == '>' then finishComment s else s.goto .comment
  | .commentStartDash =>
    if c == '-' then s.goto .commentEnd
    else if c == '>' then finishComment s else s.goto .comment
  | .comment => if c == '-' then s.goto .commentDash else s
  | .commentDash => if c == '-' then s.goto .commentEnd else s.goto .comment
  | .commentEnd =>
    if c == '>' then finishComment s
    else if c == '!' then s.goto .commentBang
    else if c == '-' then s else s.goto .comment
  | .commentBang =>
    if c == '>' then finishComment s
    else if c == '-' then s.goto .commentDash else s.goto .comment
  | .areaLess =>
    if c == '/' then s.goto .areaEndOpen else atData (s.emit (.text ['<'])) c
  | .areaEndOpen =>
    if c.isAlpha then s.goto (.areaEndName [c]) else atData (s.emit (.text ['<', '/'])) c
  | .areaEndName buffer => atAreaEndName allowed s buffer c

/-- Reads a character and keeps it with the source of the tag. -/
def step (allowed : String → Bool) (s : Scanner) (c : Char) : Scanner :=
  read allowed { s with source := c :: s.source } c

/-- Ends the document at the place of the scanner. -/
def finish (allowed : String → Bool) (s : Scanner) : Scanner :=
  match s.place with
  | .text run => s.emit (.text run.reverse)
  | .spaces run => s.emit (.spaces run.reverse)
  | .tagOpen | .areaLess => s.emit (.text ['<'])
  | .endTagOpen | .areaEndOpen => s.emit (.text ['<', '/'])
  | .tagName _ | .name _ | .afterName _ | .value none _ => s.emit s.sourceToken
  | .bogus closing data => finishBogus allowed s closing data
  | .declaration _ | .commentStart | .commentStartDash | .comment | .commentDash | .commentEnd
  | .commentBang => s.emit .comment
  | .areaEndName buffer => s.emit (.text ('<' :: '/' :: buffer.reverse))
  | .data | .beforeName _ | .beforeValue _ | .value (some _) _ | .afterValue _ | .slash _
  | .doctype => s

end Scanner

/-- Line ends as line feeds. -/
def normalizeLines : List Char → List Char
  | '\r' :: '\n' :: rest => '\n' :: normalizeLines rest
  | '\r' :: rest => '\n' :: normalizeLines rest
  | c :: rest => c :: normalizeLines rest
  | [] => []

/-- The tokens of a document. -/
def scan (allowed : String → Bool) (document : List Char) : List Token :=
  ((normalizeLines document).foldl (Scanner.step allowed) {} |>.finish allowed).tokens.reverse

end StaticSite.Html
