import StaticSite.Html.Tree

/-!
# Building trees

A `Builder` holds a tree under construction, the stack of elements that are still open (current one
first), and the formatting elements that are to be opened again where a block has cut them, with a
`none` as marker at each cell and caption.

* `insertElement` and `insertText` add to the current element. Where the current element is a
  frame of a table and `fostering` is on, they add before the table instead.
* `reopenFormatting` opens the cut formatting elements again.
* `closeFormatting` ends a formatting element: blocks begun inside it are moved out, and what they
  hold is wrapped anew.
-/

namespace StaticSite.Html

/-!
## Classes of elements

The classes of element names that the structure of a document depends on.
-/

/-- Elements without content. -/
def voidElements : List String :=
  ["base", "command", "event-source", "link", "meta", "hr", "br", "img", "embed", "param", "area",
   "col", "input", "source", "track"]

/-- Elements that end the search for something to close. -/
def specialElements : List String :=
  ["address", "article", "aside", "blockquote", "br", "button", "caption", "col", "colgroup",
   "dd", "details", "dir", "div", "dl", "dt", "fieldset", "figure", "footer", "form", "h1", "h2",
   "h3", "h4", "h5", "h6", "header", "hr", "html", "img", "input", "li", "nav", "ol", "p", "pre",
   "section", "select", "table", "tbody", "td", "textarea", "tfoot", "th", "thead", "tr", "ul",
   "wbr"]

/-- Elements that bound the scope of a name. -/
def scopeBounds : List String := ["caption", "html", "table", "td", "th"]

/-- Headings. -/
def headings : List String := ["h1", "h2", "h3", "h4", "h5", "h6"]

/-- Blocks that end a paragraph when they begin. -/
def paragraphEnders : List String :=
  ["address", "article", "aside", "blockquote", "details", "div", "dl", "fieldset", "figcaption",
   "figure", "footer", "header", "hgroup", "main", "nav", "ol", "p", "section", "summary", "ul"]

/-- Blocks that an end tag closes together with what they hold. -/
def closableBlocks : List String :=
  ["address", "article", "aside", "blockquote", "button", "details", "div", "dl", "fieldset",
   "figcaption", "figure", "footer", "header", "hgroup", "main", "nav", "ol", "pre", "section",
   "summary", "ul"]

/-- Elements that are opened again after a block has cut them. -/
def formattingElements : List String :=
  ["a", "b", "code", "em", "i", "s", "small", "strong", "u"]

/-- Parts of a table that mean nothing outside of one. -/
def tableParts : List String :=
  ["caption", "col", "colgroup", "tbody", "td", "tfoot", "th", "thead", "tr"]

/-- Groups of rows. -/
def rowGroups : List String := ["tbody", "tfoot", "thead"]

/-- Cells of a row. -/
def cells : List String := ["td", "th"]

/-- Elements that hold only parts of a table. -/
def tableFrames : List String := ["table", "tbody", "tfoot", "thead", "tr"]

/-- Elements whose end may be left out. -/
def impliedEnds : List String := ["dd", "dt", "li", "option", "optgroup", "p", "rp", "rt"]

/-! ## Builders -/

/-- Which rules apply to the next token. -/
inductive Phase where
  | body
  | table
  | tableText
  | caption
  | columnGroup
  | tableBody
  | row
  | cell
  | select
  | selectInTable
deriving DecidableEq, Repr

/-- Whether a phase lies inside a table. -/
def Phase.isInTable : Phase → Bool
  | .table | .caption | .columnGroup | .tableBody | .row | .cell => true
  | _ => false

/-- Whether a phase is that of a table's frame, where content is misplaced. -/
def Phase.isFrame : Phase → Bool
  | .table | .tableBody | .row => true
  | _ => false

/-- A tree under construction. -/
structure Builder where
  forest : Forest := #[{ name := "html" }]
  stack : List Nat := [0]
  formatting : List (Option Nat) := []
  phase : Phase := .body
  form : Option Nat := none
  fostering : Bool := false
  dropsNewline : Bool := false
  pending : List Char := []
  resumed : Phase := .table

namespace Builder

/-- The name of a cell. -/
def name (b : Builder) (i : Nat) : String := (b.forest.cell i).name

/-- The current element. -/
def current (b : Builder) : Nat := b.stack.headD 0

/-- The name of the current element. -/
def currentName (b : Builder) : String := b.name b.current

/-- Closes the current element. -/
def pop (b : Builder) : Builder := { b with stack := b.stack.drop 1 }

/-- Closes elements up to and including the first that satisfies `p`. -/
def popThrough (b : Builder) (p : Nat → Bool) : Builder :=
  { b with stack := (b.stack.dropWhile fun i => !p i).drop 1 }

/-- Closes elements up to and including the first of a name. -/
def popTo (b : Builder) (name : String) : Builder := b.popThrough fun i => b.name i == name

/-- Closes elements up to the first with one of some names. -/
def popUntil (b : Builder) (names : List String) : Builder :=
  { b with stack := b.stack.dropWhile fun i => !names.contains (b.name i) }

/-- Whether an open element satisfies `p` before one satisfies `bound`. -/
def inScopeOf (b : Builder) (p bound : Nat → Bool) : Bool :=
  match b.stack.find? fun i => p i || bound i with
  | some i => p i
  | none => false

/-- Whether an element of a name is open inside the given bounds. -/
def inScope (b : Builder) (name : String) (bounds : List String := scopeBounds) : Bool :=
  b.inScopeOf (b.name · == name) fun i => bounds.contains (b.name i)

/-- Whether a paragraph is open that a block would close. -/
def inParagraph (b : Builder) : Bool := b.inScope "p" ("button" :: scopeBounds)

/-- Whether an element of a name is open inside the innermost table. -/
def inTableScope (b : Builder) (name : String) : Bool := b.inScope name ["html", "table"]

/-- Closes the elements whose end may be left out, but for one name. -/
def closeImplied (b : Builder) (except : String := "") : Builder :=
  { b with stack := b.stack.dropWhile fun i =>
      impliedEnds.contains (b.name i) && b.name i != except }

/-- Where something misplaced inside a table goes: a cell, and the child of it to stand before. -/
def fosterPlace (b : Builder) : Nat × Option Nat :=
  match b.stack.find? fun i => b.name i == "table" with
  | some table => ((b.forest.cell table).parent.getD 0, some table)
  | none => (b.stack.getLastD 0, none)

/-- Whether what is added goes before the innermost table. -/
def isMisplaced (b : Builder) : Bool := b.fostering && tableFrames.contains b.currentName

/-- Adds a new cell to the forest. -/
def newCell (b : Builder) (name : String) (attributes : List Attribute) : Builder × Nat :=
  ({ b with forest := b.forest.push { name, attributes } }, b.forest.size)

/-- Adds a cell at the current place. -/
def attach (b : Builder) (i : Nat) : Builder :=
  if b.isMisplaced then
    match b.fosterPlace with
    | (parent, some table) => { b with forest := b.forest.insertBefore parent i table }
    | (parent, none) => { b with forest := b.forest.appendChild parent i }
  else { b with forest := b.forest.appendChild b.current i }

/-- Opens an element. -/
def insertElement (b : Builder) (tag : Tag) : Builder :=
  let (b, i) := b.newCell tag.name tag.attributes
  let b := b.attach i
  { b with stack := i :: b.stack }

/-- Adds an element and closes it. -/
def insertEmpty (b : Builder) (tag : Tag) : Builder := (b.insertElement tag).pop

/-- Adds text. -/
def insertText (b : Builder) (data : List Char) : Builder :=
  if b.isMisplaced then
    match b.fosterPlace with
    | (parent, some table) => { b with forest := b.forest.insertText parent table data }
    | (parent, none) => { b with forest := b.forest.appendText parent data }
  else { b with forest := b.forest.appendText b.current data }

/-- Adds the place of a comment. -/
def insertComment (b : Builder) : Builder :=
  let (b, i) := b.newCell "" []
  { b with forest := b.forest.appendChild b.current i }

/-! ### Formatting elements -/

/-- The formatting elements since the last marker, last first. -/
def recentFormatting (b : Builder) : List Nat :=
  (b.formatting.reverse.takeWhile Option.isSome).filterMap id

/-- The last formatting element of a name since the last marker. -/
def formattingElement? (b : Builder) (name : String) : Option Nat :=
  b.recentFormatting.find? fun i => b.name i == name

/-- Whether two cells are elements of one name with the same attributes. -/
def areAlike (b : Builder) (i j : Nat) : Bool :=
  b.name i == b.name j &&
    sameAttributes (b.forest.cell i).attributes (b.forest.cell j).attributes

/-- Takes a cell from the formatting elements. -/
def dropFormatting (b : Builder) (i : Nat) : Builder :=
  { b with formatting := b.formatting.erase (some i) }

/-- Makes the current element a formatting element. Of four alike, the first is forgotten. -/
def rememberFormatting (b : Builder) : Builder :=
  let alike := b.recentFormatting.filter (b.areAlike b.current)
  let b := if alike.length == 3 then b.dropFormatting (alike.getLastD 0) else b
  { b with formatting := b.formatting ++ [some b.current] }

/-- Sets a marker. -/
def markFormatting (b : Builder) : Builder := { b with formatting := b.formatting ++ [none] }

/-- Forgets the formatting elements since the last marker, and the marker. -/
def clearFormatting (b : Builder) : Builder :=
  { b with formatting := ((b.formatting.reverse.dropWhile Option.isSome).drop 1).reverse }

/-- Opens again the formatting elements of a list; the elements before it are kept. -/
def reopen (b : Builder) (kept : List (Option Nat)) : List Nat → Builder
  | [] => { b with formatting := kept }
  | i :: rest =>
    let b := b.insertElement ⟨b.name i, (b.forest.cell i).attributes⟩
    b.reopen (kept ++ [some b.current]) rest

/-- Opens again the last formatting elements that are not open. -/
def reopenFormatting (b : Builder) : Builder :=
  let closed := (b.recentFormatting.takeWhile fun i => !b.stack.contains i).reverse
  if closed.isEmpty then b
  else b.reopen (b.formatting.take (b.formatting.length - closed.length)) closed

/-- A new cell like another, without content. -/
def clone (b : Builder) (i : Nat) : Builder × Nat :=
  b.newCell (b.name i) (b.forest.cell i).attributes

/-- Replaces a value in a list. -/
def substitute {α : Type} [BEq α] (old new : α) (xs : List α) : List α :=
  xs.map fun x => if x == old then new else x

/-- Wraps `last` in copies of up to `count` formatting elements of `below`, the open elements under
the block that is moved, and drops the others from the stack. The result is the outermost cell
and the place in the formatting list that the copy of `formatting` takes. -/
def wrapMoved (formatting block : Nat) : Nat → List Nat → Builder → Nat → Nat →
    Builder × Nat × Nat
  | 0, _, b, last, place => (b, last, place)
  | _, [], b, last, place => (b, last, place)
  | count + 1, i :: below, b, last, place =>
    if !b.formatting.contains (some i) then
      wrapMoved formatting block count below { b with stack := b.stack.erase i } last place
    else if i == formatting then (b, last, place)
    else
      -- The copy of `formatting` is to stand right behind the first of these copies.
      let place := if last == block then b.formatting.idxOf (some i) + 1 else place
      let (b, copy) := b.clone i
      let b :=
        { b with
          formatting := substitute (some i) (some copy) b.formatting
          stack := substitute i copy b.stack
          forest := (b.forest.detach last).appendChild copy last }
      wrapMoved formatting block count below b copy place

/-- Puts a moved cell under a common ancestor, or before the table that the ancestor frames. -/
def placeMoved (b : Builder) (ancestor i : Nat) : Builder :=
  let b := { b with forest := b.forest.detach i }
  if tableFrames.contains (b.name ancestor) then
    match b.fosterPlace with
    | (parent, some table) => { b with forest := b.forest.insertBefore parent i table }
    | (parent, none) => { b with forest := b.forest.appendChild parent i }
  else { b with forest := b.forest.appendChild ancestor i }

/-- Moves a block out of a formatting element and wraps its content in a copy of the element. -/
def moveBlock (b : Builder) (formatting block : Nat) : Builder :=
  let below := (b.stack.dropWhile (· != block)).drop 1
  let ancestor := ((below.dropWhile (· != formatting)).drop 1).headD 0
  let place := b.formatting.idxOf (some formatting)
  let (b, last, place) := wrapMoved formatting block 3 below b block place
  let b := b.placeMoved ancestor last
  let (b, copy) := b.clone formatting
  let kept := b.formatting.erase (some formatting)
  let stack := b.stack.erase formatting
  { b with
    forest := (b.forest.moveChildren block copy).appendChild block copy
    formatting := kept.take place ++ some copy :: kept.drop place
    stack := stack.takeWhile (· != block) ++ copy :: stack.dropWhile (· != block) }

/-- Closes the innermost element of a name, unless a special element is in between. -/
def closeOther (b : Builder) (name : String) : Builder :=
  match b.stack.find? fun i => b.name i == name || specialElements.contains (b.name i) with
  | some i =>
    if b.name i == name then (b.closeImplied name).popThrough (· == i) else b
  | none => b

/-- Ends a formatting element, in up to `rounds` rounds. -/
def closeFormatting : Nat → Builder → String → Builder
  | 0, b, _ => b
  | rounds + 1, b, name =>
    match b.formattingElement? name with
    | none => b.closeOther name
    | some i =>
      if !b.stack.contains i then b.dropFormatting i
      else if !b.inScope name then b.closeOther name
      else
        let above := b.stack.takeWhile (· != i)
        -- A block that is open inside of the element is moved out of it.
        match above.reverse.find? fun j => specialElements.contains (b.name j) with
        | none => (b.popThrough (· == i)).dropFormatting i
        | some block => closeFormatting rounds (b.moveBlock i block) name

end Builder

end StaticSite.Html
