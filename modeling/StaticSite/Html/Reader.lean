import StaticSite.Html.Reference
import StaticSite.Html.Scanner
import StaticSite.Html.Tree
import StaticSite.Text.Blank

/-!
# Reading and writing a body

`readBody` reads HTML as the contents of a body, and `writeNodes` writes it. The reader keeps a
stack of open elements: a start tag ends the open elements that end before it, and an end tag ends
the elements inside its own. An end tag without its element is ignored. Text that comes before every
element begins a paragraph.

References are resolved by the classic names; others stay as they are written.
-/

namespace StaticSite.Html

/-!
## Which tags end which elements

The end tag of an element may be left out, and then another tag ends the element.

* `endsBefore` says which start tags end an element that is open.
* `endRank` orders elements by how firmly they are open: an end tag does not reach across an
  element of a higher rank.
-/

/-- The start tags that end a heading. -/
def headingEnders : List String := ["fieldset", "form", "li", "p", "table"]

/-- The start tags that end an element, by its name. -/
def startEnders : List (String × List String) :=
  [("a", ["a", "fieldset", "table", "td", "th"]),
   ("address", ["dd", "dl", "dt", "form", "li", "ul"]),
   ("b", ["p", "td", "th"]),
   ("caption", ["col", "colgroup", "tbody", "tfoot", "thead", "tr"]),
   ("colgroup", ["colgroup", "tbody", "tfoot", "thead", "tr"]),
   ("dd", ["dt"]),
   ("dl", ["form", "li"]),
   ("dt", ["dd", "dl"]),
   ("form", ["form"]),
   ("h1", headingEnders),
   ("h2", headingEnders),
   ("h3", headingEnders),
   ("h4", headingEnders),
   ("h5", headingEnders),
   ("h6", headingEnders),
   ("legend", ["fieldset"]),
   ("li", ["li"]),
   ("ol", ["form"]),
   ("option", ["optgroup", "option"]),
   ("p", ["address", "blockquote", "caption", "col", "colgroup", "dd", "div", "dl", "dt", "h1",
     "h2", "h3", "h4", "h5", "h6", "hr", "li", "ol", "p", "pre", "table", "tbody", "td", "tfoot",
     "th", "tr", "ul"]),
   ("pre", ["dd", "dl", "dt", "fieldset", "form", "li", "table", "ul"]),
   ("s", ["p"]),
   ("small", ["p"]),
   ("span", ["td", "th"]),
   ("tbody", ["tbody", "tfoot"]),
   ("td", ["tbody", "td", "tfoot", "th", "tr"]),
   ("tfoot", ["tbody"]),
   ("th", ["tbody", "td", "tfoot", "th", "tr"]),
   ("thead", ["tbody", "tfoot"]),
   ("tr", ["tbody", "tfoot", "tr"]),
   ("u", ["p", "td", "th"]),
   ("ul", ["address", "form", "ol", "pre"])]

/-- Whether an open element ends before a start tag. -/
def endsBefore (element startTag : String) : Bool :=
  ((startEnders.lookup element).getD []).contains startTag

/-- The ranks of the elements that are open more firmly than others. -/
def endRanks : List (String × Nat) :=
  [("div", 150), ("td", 160), ("th", 160), ("tr", 170), ("thead", 180), ("tbody", 180),
   ("tfoot", 180), ("table", 190)]

/-- How firmly an element is open. -/
def endRank (element : String) : Nat := (endRanks.lookup element).getD 100

/-- The elements without contents. -/
def emptyElements : List String := ["br", "col", "hr", "img", "input"]

/-! ## Reading -/

/-- Whether a code point may stand for a character of a document. -/
def isDocumentChar (n : Nat) : Bool :=
  n == 9 || n == 10 || n == 13 || (0x20 ≤ n && n ≤ 0xD7FF) || (0xE000 ≤ n && n ≤ 0xFFFD) ||
    (0x10000 ≤ n && n ≤ 0x10FFFF)

/-- The character of a code point, if a document may hold it. -/
def documentChar (n : Nat) : List Char := if isDocumentChar n then [Char.ofNat n] else []

/-- The characters that a reference stands for, by its name. -/
def classicCharacters? : List Char → Option (List Char)
  | '#' :: 'x' :: digits => some (documentChar (numeral 16 digits))
  | '#' :: 'X' :: digits => some (documentChar (numeral 16 digits))
  | '#' :: digits => some (documentChar (numeral 10 digits))
  | name => (classicReferences.lookup (String.ofList name)).map documentChar

/-- Text with its references resolved. -/
def resolveClassic (cs : List Char) : List Char :=
  (ampersandParts cs).flatMap fun part =>
    let resolved := (matchReference? part).bind fun name =>
      (classicCharacters? name).map fun chars => chars ++ part.drop (name.length + 2)
    resolved.getD part

/-- An open element, its children in reverse. -/
structure OpenElement where
  name : String
  attributes : List Attribute
  children : List Node

namespace OpenElement

/-- Adds a child. -/
def push (e : OpenElement) (n : Node) : OpenElement := { e with children := n :: e.children }

/-- Adds text, to the text that is the last child or as a new child. -/
def pushText (e : OpenElement) (data : String) : OpenElement :=
  match e.children with
  | .text before :: others => { e with children := .text (before ++ data) :: others }
  | _ => e.push (.text data)

/-- A child with the references of its text resolved. -/
def resolveText : Node → Node
  | .text data => .text (String.ofList (resolveClassic data.toList))
  | n => n

/-- The children in order, the references in text between them resolved. -/
def contents (e : OpenElement) : List Node := e.children.reverse.map resolveText

/-- The element, when its children are complete. -/
def node (e : OpenElement) : Node := .element e.name e.attributes e.contents

end OpenElement

/-- A body that is being read: the open elements from the innermost on, the body itself, and whether
anything has been read. -/
structure Reading where
  stack : List OpenElement := []
  body : OpenElement := ⟨"body", [], []⟩
  begun : Bool := false

namespace Reading

/-- Changes the innermost open element. -/
def change (r : Reading) (f : OpenElement → OpenElement) : Reading :=
  match r.stack with
  | [] => { r with body := f r.body }
  | e :: es => { r with stack := f e :: es }

/-- Ends the innermost element. -/
def close (r : Reading) : Reading :=
  match r.stack with
  | [] => r
  | e :: es => { r with stack := es }.change (·.push e.node)

/-- Ends a number of elements. -/
def closeMany (r : Reading) : Nat → Reading
  | 0 => r
  | n + 1 => r.close.closeMany n

/-- Opens an element. -/
def enter (r : Reading) (name : String) (attributes : List Attribute) : Reading :=
  { r with stack := ⟨name, attributes, []⟩ :: r.stack, begun := true }

/-- How many elements end before a start tag. -/
def endedBefore (stack : List OpenElement) (name : String) : Nat :=
  (stack.takeWhile fun e => endsBefore e.name name).length

/-- Reads a start tag. -/
def start (r : Reading) (tag : Tag) : Reading :=
  let r := r.closeMany (endedBefore r.stack tag.name)
  let attributes := tag.attributes.map fun (name, value) =>
    (name, String.ofList (resolveClassic value.toList))
  let r := r.enter tag.name attributes
  if emptyElements.contains tag.name then r.close else r

/-- How many elements an end tag ends: those up to its own, unless one of them has a higher
rank. -/
def endedBy (name : String) : List OpenElement → Nat
  | [] => 0
  | e :: es =>
    if e.name == name then 1
    else if endRank e.name > endRank name then 0
    else match endedBy name es with
      | 0 => 0
      | n + 1 => n + 2

/-- Reads text. Blanks before everything else are dropped. -/
def addText (r : Reading) (data : List Char) : Reading :=
  let data := if r.begun then data else data.dropWhile isSpace
  if data.isEmpty then r
  else
    let r := if r.begun then r else r.enter "p" []
    r.change (·.pushText (String.ofList (data.filter fun c => isDocumentChar c.toNat)))

/-- Reads a token. -/
def read (r : Reading) : Token → Reading
  | .text data => r.addText data
  | .spaces data => r.addText data
  | .startTag tag => r.start tag
  | .endTag name => r.closeMany (endedBy name r.stack)
  | .comment => r

/-- The contents of the body, when everything has been read. -/
def contents (r : Reading) : List Node := (r.closeMany r.stack.length).body.contents

end Reading

/-- The nodes of a body. -/
def readBody (document : String) : List Node :=
  ((scan (fun _ => true) document.toList).foldl Reading.read {}).contents

/-!
## Writing nodes

`writeNodes` writes nodes as HTML. Attributes are ordered by name, and the words of an attribute
that is a list of words are written with one space between them. Blank text becomes a single blank:
a line feed if it holds one, a space otherwise. In preformatted text blanks are kept.
-/

/-- Escapes ampersands and angle brackets. -/
def writeText (cs : List Char) : List Char :=
  cs.flatMap fun c =>
    if c == '&' then "&amp;".toList
    else if c == '<' then "&lt;".toList
    else if c == '>' then "&gt;".toList
    else [c]

/-- A quoted value. Single quotes are used when the value holds double quotes alone. -/
def writeValue (value : List Char) : List Char :=
  let value := writeText value
  if !value.contains '"' then '"' :: value ++ ['"']
  else if !value.contains '\'' then '\'' :: value ++ ['\'']
  else
    let quoted := value.flatMap fun c => if c == '"' then "&quot;".toList else [c]
    '"' :: quoted ++ ['"']

/-- Whether the value of an attribute is a list of words. -/
def holdsWords (element name : String) : Bool :=
  name == "class" || (element == "a" && name == "rel") || (element == "output" && name == "for")

/-- An attribute as HTML. -/
def writeAttribute (element : String) (a : Attribute) : List Char :=
  let value := if holdsWords element a.1 then " ".intercalate (Text.words a.2) else a.2
  ' ' :: a.1.toList ++ '=' :: writeValue value.toList

/-- Attributes as HTML, ordered by name. -/
def writeAttributes (element : String) (attributes : List Attribute) : List Char :=
  (attributes.mergeSort fun a b => a.1 ≤ b.1).flatMap (writeAttribute element)

/-- The elements that are written without an end tag when they are empty. -/
def closedElements : List String :=
  ["area", "base", "br", "col", "embed", "hr", "img", "input", "keygen", "link", "meta", "param",
   "source", "track", "wbr"]

/-- The elements whose blanks are kept. -/
def preformattedElements : List String := ["pre", "textarea"]

/-- Blank text as a single blank. -/
def collapseBlank (cs : List Char) : List Char :=
  if cs.isEmpty || !cs.all isSpace then cs else if cs.contains '\n' then ['\n'] else [' ']

mutual

/-- A node as HTML. -/
def Node.write (keepBlanks : Bool) : Node → List Char
  | .text data => writeText (if keepBlanks then data.toList else collapseBlank data.toList)
  | .element name attributes children =>
    let start := '<' :: name.toList ++ writeAttributes name attributes
    if children.isEmpty && closedElements.contains name then start ++ ['/', '>']
    else
      start ++ '>' :: writeAll (keepBlanks || preformattedElements.contains name) children ++
        '<' :: '/' :: name.toList ++ ['>']

/-- Nodes as HTML, one after the other. -/
def writeAll (keepBlanks : Bool) : List Node → List Char
  | [] => []
  | n :: ns => n.write keepBlanks ++ writeAll keepBlanks ns

end

/-- Nodes as HTML. -/
def writeNodes (nodes : List Node) : String := String.ofList (writeAll false nodes)

end StaticSite.Html
