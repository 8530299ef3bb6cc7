/-!
# Tokens and trees of HTML

A document is read as a sequence of tokens, from which a tree of elements is made.
-/

namespace StaticSite.Html

/-!
## Tokens of HTML

A document is read as a sequence of tokens: runs of text, runs of blanks, start and end tags, and
comments, whose text is not kept. References in text and attribute values stay as they are
written.
-/

/-- Whether a character is one of the blanks of HTML. -/
def isSpace (c : Char) : Bool :=
  c == ' ' || c == '\t' || c == '\n' || c == '\x0c' || c == '\r'

/-- An attribute: its name and its value. -/
abbrev Attribute := String × String

/-- A tag: its name and its attributes, no two of one name. -/
structure Tag where
  name : String
  attributes : List Attribute
deriving DecidableEq, Repr

/-- A tag without attributes. -/
def Tag.plain (name : String) : Tag := ⟨name, []⟩

/-- A unit of a document. -/
inductive Token where
  | text (data : List Char)
  | spaces (data : List Char)
  | startTag (tag : Tag)
  | endTag (name : String)
  | comment
deriving DecidableEq, Repr

/-- The value of an attribute. -/
def attribute? (name : String) (attributes : List Attribute) : Option String :=
  attributes.lookup name

/-- Attributes without later ones of a name that occurred before. -/
def distinctAttributes (attributes : List Attribute) : List Attribute :=
  attributes.foldl (fun kept a => if kept.any (·.1 == a.1) then kept else kept ++ [a]) []

/-- Whether two lists of attributes give the same names the same values. -/
def sameAttributes (a b : List Attribute) : Bool :=
  a.length == b.length && a.all fun (name, value) => b.lookup name == some value

/-!
## Trees of elements

`Node` is a document: elements with their children, and pieces of text. A tree under construction
is a `Forest` of cells that are known by number: each cell holds the text before its first child,
its children, and the text that follows the cell inside its parent.

A cell may stand among the children of its parent without being listed there. That happens to what
is moved out of a table: when the listed children move on to another cell, the others are lost.
-/

/-- A document or a part of one. -/
inductive Node where
  | text (data : String)
  | element (name : String) (attributes : List Attribute) (children : List Node)
deriving Inhabited, Repr

/-- An element under construction, or the place of a comment, which has no name. -/
structure Cell where
  name : String
  attributes : List Attribute := []
  text : List Char := []
  tail : List Char := []
  parent : Option Nat := none
  children : List Nat := []
  listed : List Nat := []
deriving Inhabited, Repr

/-- The cells of a tree under construction, by number. -/
abbrev Forest := Array Cell

namespace Forest

/-- The cell with a number. -/
def cell (f : Forest) (i : Nat) : Cell := f[i]?.getD { name := "" }

/-- Changes a cell. -/
def change (f : Forest) (i : Nat) (g : Cell → Cell) : Forest := f.modify i g

/-- Makes a cell the last child of another. -/
def appendChild (f : Forest) (parent child : Nat) : Forest :=
  (f.change parent fun c =>
    { c with children := c.children ++ [child], listed := c.listed ++ [child] }).change child
    fun c => { c with parent := some parent }

/-- Puts a cell before a child of another, without listing it. -/
def insertBefore (f : Forest) (parent child next : Nat) : Forest :=
  (f.change parent fun c =>
    let i := c.children.idxOf next
    { c with children := c.children.take i ++ child :: c.children.drop i }).change child
    fun c => { c with parent := some parent }

/-- Takes a cell out of its parent. -/
def detach (f : Forest) (child : Nat) : Forest :=
  match (f.cell child).parent with
  | none => f
  | some parent =>
    (f.change parent fun c =>
      { c with children := c.children.erase child, listed := c.listed.erase child }).change child
      fun c => { c with parent := none }

/-- Adds text after a child. -/
def addTail (f : Forest) (child : Nat) (data : List Char) : Forest :=
  f.change child fun c => { c with tail := c.tail ++ data }

/-- Adds text before the first child. -/
def addHead (f : Forest) (parent : Nat) (data : List Char) : Forest :=
  f.change parent fun c => { c with text := c.text ++ data }

/-- Adds text at the end of a cell. -/
def appendText (f : Forest) (parent : Nat) (data : List Char) : Forest :=
  match (f.cell parent).children.getLast? with
  | some last => f.addTail last data
  | none => f.addHead parent data

/-- Adds text before a child of a cell. -/
def insertText (f : Forest) (parent next : Nat) (data : List Char) : Forest :=
  let before := (f.cell parent).children.takeWhile (· != next)
  match before.getLast? with
  | some last => f.addTail last data
  | none => f.addHead parent data

/-- Moves the text and the listed children of a cell to an empty cell. The other children go. -/
def moveChildren (f : Forest) (source target : Nat) : Forest :=
  let cell := f.cell source
  let f := f.addHead target cell.text
  let f := cell.listed.foldl (fun f child => f.appendChild target child) f
  f.change source fun c => { c with text := [], children := [], listed := [] }

/-- Whether a cell holds anything. -/
def hasContent (f : Forest) (i : Nat) : Bool :=
  !(f.cell i).text.isEmpty || !(f.cell i).children.isEmpty

/-- A piece of text as a list of nodes. -/
def textNodes (data : List Char) : List Node :=
  if data.isEmpty then [] else [.text (String.ofList data)]

/-- The nodes inside a cell, to a depth. -/
def nodes (f : Forest) : Nat → Nat → List Node
  | 0, _ => []
  | depth + 1, i =>
    let cell := f.cell i
    textNodes cell.text ++ cell.children.flatMap fun child =>
      let inner := f.cell child
      (if inner.name == "" then []
       else [.element inner.name inner.attributes (f.nodes depth child)]) ++ textNodes inner.tail

end Forest

end StaticSite.Html
