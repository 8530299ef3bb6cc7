import StaticSite.Text.Blank
import StaticSite.Text.Digit
import StaticSite.Text.Find
import StaticSite.Text.WordChar

/-!
# Marks and elements

An article becomes a tree of elements. While it is read, pieces that are finished stand in its text
as marks.
-/

namespace StaticSite.Markdown

/-!
## Marks

While an article is read, pieces that are finished stand in its text as marks: a start control, a
letter for the kind of piece, a number, and an end control. The controls are removed from the
article beforehand, so that nothing else looks like a mark.

* a `node` mark stands for an element or a piece of text that was recognized inside a paragraph;
* a `raw` mark stands for a piece of HTML that is passed on as it is;
* an `escape` mark stands for a character that was escaped, by its code point.
-/

/-- The grave accent, which encloses code. -/
def grave : Char := Char.ofNat 0x60

/-- The control that begins a mark. -/
def markStart : Char := Char.ofNat 2

/-- The control that ends a mark. -/
def markEnd : Char := Char.ofNat 3

/-- The kinds of marks. -/
inductive MarkKind where
  | node
  | raw
  | escape
deriving DecidableEq, Repr

/-- The letter of a kind. -/
def MarkKind.letter : MarkKind → Char
  | node => 'n'
  | raw => 'r'
  | escape => 'e'

/-- A mark as text. -/
def mark (kind : MarkKind) (number : Nat) : List Char :=
  markStart :: kind.letter :: Nat.toDigits 10 number ++ [markEnd]

/-- The mark at the start of a text, and the text after it. -/
def mark? (kind : MarkKind) : List Char → Option (Nat × List Char)
  | s :: k :: cs =>
    if s == markStart && k == kind.letter then
      let digits := cs.takeWhile Char.isDigit
      match cs.drop digits.length with
      | e :: rest => if e == markEnd then some (Text.digitsValue digits, rest) else none
      | [] => none
    else none
  | _ => none

/-- The text before the first mark of a kind, its number, and the text after it. -/
def splitMark? (kind : MarkKind) : List Char → Option (List Char × Nat × List Char)
  | [] => none
  | c :: cs =>
    match mark? kind (c :: cs) with
    | some (n, rest) => some ([], n, rest)
    | none => (splitMark? kind cs).map fun (before, n, rest) => (c :: before, n, rest)

/-- Replaces the marks of a kind by what they stand for; `skip` characters of the text still
belong to a mark. -/
def replaceMarksFrom (kind : MarkKind) (f : Nat → List Char) : Nat → List Char → List Char
  | _, [] => []
  | skip + 1, _ :: cs => replaceMarksFrom kind f skip cs
  | 0, c :: cs =>
    match mark? kind (c :: cs) with
    | some (n, rest) => f n ++ replaceMarksFrom kind f (cs.length - rest.length) cs
    | none => c :: replaceMarksFrom kind f 0 cs

/-- Replaces the marks of a kind by what they stand for. -/
def replaceMarks (kind : MarkKind) (f : Nat → List Char) (cs : List Char) : List Char :=
  replaceMarksFrom kind f 0 cs

/-- Replaces the marks of escaped characters by the characters. -/
def unescape (cs : List Char) : List Char := replaceMarks .escape (fun n => [Char.ofNat n]) cs

/-!
## Elements of an article

An article is a tree of elements. An element holds the text before its first child, its children,
and the text that follows it inside its parent. The text of a `verbatim` element is not searched
for markup.
-/

/-- An element of an article. -/
structure Element where
  tag : String
  attributes : List (String × List Char) := []
  text : List Char := []
  verbatim : Bool := false
  children : List Element := []
  tail : List Char := []
deriving Inhabited, Repr

namespace Element

/-- The last child. -/
def last? (e : Element) : Option Element := e.children.getLast?

/-- Adds a child at the end. -/
def push (e child : Element) : Element := { e with children := e.children ++ [child] }

/-- Replaces the last child. -/
def setLast (e child : Element) : Element :=
  { e with children := e.children.dropLast ++ [child] }

/-- Whether an element is a list. -/
def isList (e : Element) : Bool := e.tag == "ul" || e.tag == "ol"

/-- Whether an element is an item of a list. -/
def isItem (e : Element) : Bool := e.tag == "li"

/-- Whether an element is a block of code. -/
def isCodeBlock (e : Element) : Bool :=
  e.tag == "pre" && (e.children.head?.map (·.tag)) == some "code"

end Element

/-- The names of elements that stand for themselves, not inside a paragraph. -/
def blockTags : List String :=
  ["address", "article", "aside", "blockquote", "details", "div", "dl", "fieldset", "figcaption",
   "figure", "footer", "form", "h1", "h2", "h3", "h4", "h5", "h6", "header", "hgroup", "hr",
   "main", "menu", "nav", "ol", "p", "pre", "section", "table", "ul", "canvas", "colgroup", "dd",
   "body", "dt", "group", "html", "iframe", "li", "legend", "math", "map", "noscript", "output",
   "object", "option", "progress", "script", "style", "summary", "tbody", "td", "textarea",
   "tfoot", "th", "thead", "tr", "video", "center"]

/-- Whether a name is that of a block. -/
def isBlockTag (tag : String) : Bool := blockTags.contains tag

end StaticSite.Markdown
