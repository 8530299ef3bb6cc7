import StaticSite.Html.Fragment
import StaticSite.Html.Markup
import StaticSite.Html.Reference
import StaticSite.Html.Tree
import StaticSite.Link.Url

/-!
# Sanitizing

`sanitize` reads a piece of HTML, keeps the elements and attributes that the policy allows, and
writes it anew, properly nested. References are kept where they are well formed; every other
ampersand is escaped, and so are angle brackets in text.

The output is made in pieces. `Pieces.print` undoes, piece by piece, the escaping of ampersands in
double quoted values: there, references that stand for a character are kept.
-/

namespace StaticSite.Html

/-!
## What markup may contain

`isAllowedTag` and `isAllowedAttribute` list the elements and attributes that are kept in an
article. An address is kept when it names no scheme or one of `allowedSchemes`, also after
references, blanks and control characters have been resolved or removed.
-/

/-- The elements that are kept. -/
def allowedTags : List String :=
  ["address", "article", "aside", "footer", "header", "hgroup", "main", "nav", "section",
   "blockquote", "dd", "div", "dl", "dt", "hr", "li", "ol", "p", "pre", "ul",
   "a", "b", "bdi", "bdo", "br", "cite", "code", "data", "dfn", "em", "i", "kbd", "q",
   "rb", "rp", "rt", "rtc", "ruby", "s", "samp", "small", "span", "strong", "sub", "sup",
   "u", "var", "wbr", "table", "tr", "h1", "h2", "h3", "h4", "h5", "h6",
   "img", "figure", "figcaption", "details", "summary", "mark", "abbr", "time", "del", "ins",
   "form", "input", "select", "button", "label", "textarea", "output", "fieldset", "legend",
   "option", "optgroup", "th", "td", "thead", "tbody", "tfoot", "caption", "colgroup", "col"]

/-- The attributes that are kept, by element. -/
def allowedAttributes : List (String × List String) :=
  [("img", ["src", "alt", "title", "width", "height", "loading"]),
   ("a", ["href", "title", "rel", "target"]),
   ("time", ["datetime"]),
   ("abbr", ["title"]),
   ("input", ["type", "name", "id", "value", "placeholder", "min", "max", "step", "required",
     "class", "aria-label"]),
   ("select", ["name", "id", "class", "required", "aria-label"]),
   ("option", ["value", "selected"]),
   ("button", ["type", "class", "id", "disabled"]),
   ("label", ["for", "class"]),
   ("textarea", ["name", "id", "rows", "cols", "placeholder", "class"]),
   ("output", ["name", "id", "for", "class"]),
   ("form", ["id", "class", "action", "method"]),
   ("fieldset", ["class"]),
   ("legend", ["class"]),
   ("th", ["scope", "data-sort-key", "class"]),
   ("td", ["data-value", "class"]),
   ("details", ["open", "class"]),
   ("summary", ["class"]),
   ("div", ["class", "id", "role"]),
   ("span", ["class", "id"]),
   ("section", ["class", "id"])]

/-- The schemes that an address may have. -/
def allowedSchemes : List String := ["http", "https", "mailto"]

/-- The attributes whose value is an address. -/
def addressAttributes : List String := ["href", "src", "action"]

/-- Whether an element is kept. -/
def isAllowedTag (name : String) : Bool := allowedTags.contains name

/-- Whether an attribute of an element is kept, as far as its name decides. -/
def isAllowedAttribute (element name : String) : Bool :=
  ((allowedAttributes.lookup element).getD []).contains name

/-- Whether a character has no part in an address: blanks, controls, the grave accent and the
replacement character. -/
def isAddressNoise (c : Char) : Bool :=
  c.toNat == 0x60 || c.toNat ≤ 0x20 || (0x7F ≤ c.toNat && c.toNat ≤ 0xA0) || Text.isBlank c ||
    c.toNat == 0xFFFD

/-- An address with its references resolved, without noise, in small letters. -/
def plainAddress (value : String) : List Char :=
  Text.lowerList ((resolveReferences value.toList).filter fun c => !isAddressNoise c)

/-- Whether an address may be kept. -/
def isAllowedAddress (value : String) : Bool :=
  match Link.looseScheme? (plainAddress value) with
  | none => false
  | some scheme => scheme.isEmpty || allowedSchemes.contains (String.ofList scheme)

/-- The attributes of an element that are kept. -/
def keepAttributes (element : String) (attributes : List Attribute) : List Attribute :=
  attributes.filter fun (name, value) =>
    isAllowedAttribute element name &&
      (!addressAttributes.contains name || isAllowedAddress value)

/-! ## Pieces -/

/-- Whether a character is a control character without a meaning in text. -/
def isInvisible (c : Char) : Bool :=
  let n := c.toNat
  n ≤ 8 || n == 11 || n == 12 || (14 ≤ n && n ≤ 31)

/-- Replaces control characters by question marks. -/
def markInvisible (cs : List Char) : List Char := cs.map fun c => if isInvisible c then '?' else c

/-- The escaped form of a character of text. -/
def escapeTextChar (c : Char) : List Char :=
  if c == '&' then "&amp;".toList
  else if c == '<' then "&lt;".toList
  else if c == '>' then "&gt;".toList
  else [c]

/-- Text with ampersands and angle brackets escaped. -/
def escapeText (cs : List Char) : List Char := cs.flatMap escapeTextChar

/-- A piece of text: characters to be escaped, blanks, or a reference. -/
inductive TextPiece where
  | plain (data : List Char)
  | blank (data : List Char)
  | reference (name : List Char)

/-- The pieces of a text that begins with an ampersand or holds none. -/
def textPart (part : List Char) : List TextPiece :=
  match matchReference? part with
  | none => [.plain part]
  | some name =>
    let rest := part.drop (name.length + 2)
    (if name == "amp".toList then .plain ['&'] else .reference name) ::
      if rest.isEmpty then [] else [.plain rest]

/-- The pieces of a text. Blanks at its ends are not searched. -/
def textPieces (cs : List Char) : List TextPiece :=
  let left := cs.takeWhile isSpace
  let rest := cs.drop left.length
  let middle := Text.dropRightWhile isSpace rest
  let right := rest.drop middle.length
  [.blank left] ++ (ampersandParts (markInvisible middle)).flatMap textPart ++ [.blank right]

/-- Whether an attribute is written without a value. -/
def isBooleanAttribute (element name : String) : Bool :=
  match element with
  | "details" => name == "open"
  | "option" => name == "selected"
  | "button" => name == "disabled"
  | "input" => name == "required"
  | _ => false

/-- An attribute's value with ampersands and less-than signs escaped. -/
def escapeValue (cs : List Char) : List Char :=
  cs.flatMap fun c =>
    if c == '&' then "&amp;".toList else if c == '<' then "&lt;".toList else [c]

/-- The quote for a value: single when the value holds double quotes alone. -/
def quoteFor (value : List Char) : Char :=
  if value.contains '"' && !value.contains '\'' then '\'' else '"'

/-- Escapes the quote inside a value. -/
def escapeQuote (quote : Char) (value : List Char) : List Char :=
  value.flatMap fun c =>
    if c == quote then (if quote == '"' then "&quot;".toList else "&#39;".toList) else [c]

/-- The pieces of an attribute. -/
def attributePieces (element : String) (a : Attribute) : List (List Char) :=
  let name := a.1.toList
  if isBooleanAttribute element a.1 then [[' '], name]
  else
    let value := escapeValue a.2.toList
    let quote := quoteFor value
    [[' '], name, ['='], [quote], escapeQuote quote value, [quote]]

/-- The pieces of a start tag. -/
def startPieces (name : String) (attributes : List Attribute) : List (List Char) :=
  ('<' :: name.toList) ::
    (keepAttributes name attributes).flatMap (attributePieces name) ++ [['>']]

/-- The pieces of an end tag. -/
def endPieces (name : String) : List (List Char) := ['<' :: '/' :: name.toList ++ ['>']]

/-- A piece of output: finished, or a piece of text. -/
inductive Piece where
  | markup (data : List Char)
  | text (piece : TextPiece)

mutual

/-- The pieces of a node. -/
def Node.pieces : Node → List Piece
  | .text data => (textPieces data.toList).map .text
  | .element name attributes children =>
    if voidElements.contains name then (startPieces name attributes).map .markup
    else if isAllowedTag name then
      (startPieces name attributes).map .markup ++ nodesPieces children ++
        (endPieces name).map .markup
    else nodesPieces children

/-- The pieces of a list of nodes. -/
def nodesPieces : List Node → List Piece
  | [] => []
  | n :: rest => n.pieces ++ nodesPieces rest

end

/-- A run of characters as a piece of output. -/
def plainPiece (run : List Char) : List (List Char) :=
  if run.isEmpty then [] else [escapeText run]

/-- The pieces of output, adjacent characters joined to the run in progress. -/
def joinPlain : List Char → List Piece → List (List Char)
  | run, [] => plainPiece run
  | run, .text (.plain data) :: rest => joinPlain (run ++ data) rest
  | run, .text (.blank []) :: rest => joinPlain run rest
  | run, .text (.blank data) :: rest => plainPiece run ++ data :: joinPlain [] rest
  | run, .text (.reference name) :: rest =>
    plainPiece run ++ ('&' :: name ++ [';']) :: joinPlain [] rest
  | run, .markup data :: rest => plainPiece run ++ data :: joinPlain [] rest

/-- Where a printer is: inside a tag, and right after an equals sign. -/
structure PrintState where
  inTag : Bool := false
  afterEquals : Bool := false

/-- A value with its ampersands unescaped and those that begin no reference to a character escaped
again. -/
def escapeBare (value : List Char) : List Char :=
  (ampersandParts (Text.replaceList "&amp;".toList ['&'] value)).flatMap fun part =>
    match (matchReference? part).filter fun name => (referenceChar? name).isSome with
    | some name => '&' :: name ++ ';' :: part.drop (name.length + 2)
    | none => Text.replaceList ['&'] "&amp;".toList part

/-- Prints a piece. -/
def printPiece (s : PrintState) (piece : List Char) : PrintState × List Char :=
  if !s.inTag then ({ s with inTag := piece.head? == some '<' }, piece)
  else if piece == ['>'] then ({ s with inTag := false }, piece)
  else if s.afterEquals then
    if piece == ['"'] then (s, piece) else ({ s with afterEquals := false }, escapeBare piece)
  else ({ s with afterEquals := piece == ['='] }, piece)

/-- Prints pieces. -/
def printPieces : PrintState → List (List Char) → List Char
  | _, [] => []
  | s, piece :: rest =>
    let (s, out) := printPiece s piece
    out ++ printPieces s rest

/-- A piece of HTML as far as it is allowed, properly nested. -/
def sanitize (text : String) : Markup :=
  let nodes := parseFragment isAllowedTag text.toList
  ⟨String.ofList (printPieces {} (joinPlain [] (nodesPieces nodes)))⟩

end StaticSite.Html
