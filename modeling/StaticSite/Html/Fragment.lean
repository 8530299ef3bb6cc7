import StaticSite.Html.Scanner
import StaticSite.Html.Table

/-!
# Reading fragments

`parseFragment` reads a piece of a document, as it may stand inside a block, and gives its nodes.
Tags that are not allowed leave no element.
-/

namespace StaticSite.Html.Builder.Selection

/-!
## Tokens in selections

Inside a selection only options, groups of them and text are kept. The start tag of another
control or selection ends it, and inside a table so does any part of the table.
-/

/-- Text. -/
def text (b : Builder) (data : List Char) : Builder :=
  if data == [Char.ofNat 0] then b else b.insertText data

/-- Closes the selection. -/
def close (b : Builder) : Builder :=
  let isOpen := b.inScopeOf (b.name · == "select") fun i =>
    !(["option", "optgroup"].contains (b.name i))
  if isOpen then
    let b := b.popTo "select"
    b.enter b.phaseOf
  else b

/-- Closes the current element if it has a name. -/
def popIf (b : Builder) (name : String) : Builder := if b.currentName == name then b.pop else b

/-- A start tag. -/
def startTag (b : Builder) (tag : Tag) : Outcome :=
  let name := tag.name
  if name == "option" then done ((popIf b "option").insertElement tag)
  else if name == "optgroup" then
    done ((popIf (popIf b "option") "optgroup").insertElement tag)
  else if name == "select" then done (close b)
  else if ["input", "textarea"].contains name then again (close b)
  else done b

/-- An end tag. -/
def endTag (b : Builder) (name : String) : Builder :=
  if name == "option" then popIf b "option"
  else if name == "optgroup" then
    let below := (b.stack.drop 1).headD 0
    let b := if b.currentName == "option" && b.name below == "optgroup" then b.pop else b
    popIf b "optgroup"
  else if name == "select" then close b
  else b

/-- The parts of a table that end a selection inside it. -/
def enders : List String := ["caption", "table", "tbody", "tfoot", "thead", "tr", "td", "th"]

/-- A start tag inside a table. -/
def startInTable (b : Builder) (tag : Tag) : Outcome :=
  if enders.contains tag.name then again (close b) else startTag b tag

/-- An end tag inside a table. -/
def endInTable (b : Builder) (name : String) : Outcome :=
  if enders.contains name then
    if b.inTableScope name then again (close b) else done b
  else done (endTag b name)

end StaticSite.Html.Builder.Selection

namespace StaticSite.Html

/-! ## Fragments -/

namespace Builder

/-- Processes a token once, by the rules of the phase. -/
def processOnce (b : Builder) (t : Token) : Outcome :=
  match b.phase, t with
  | .tableText, .text data =>
    done (if data == [Char.ofNat 0] then b else Table.collect b data)
  | .tableText, .spaces data => done (Table.collect b data)
  | .tableText, _ => again (Table.flush b)
  | _, .comment => done b.insertComment
  | .body, .text data => done (Body.text b data)
  | .body, .spaces data => done (Body.spaces b data)
  | .body, .startTag tag => Body.startTag b tag
  | .body, .endTag name => done (Body.endTag b name)
  | .caption, .text data => done (Body.text b data)
  | .caption, .startTag tag => Table.startInCaption b tag
  | .caption, .endTag name => Table.endInCaption b name
  | .cell, .text data => done (Body.text b data)
  | .cell, .startTag tag => Table.startInCell b tag
  | .cell, .endTag name => Table.endInCell b name
  | .columnGroup, .text _ => Table.closeColumns b
  | .columnGroup, .startTag tag => Table.startInColumns b tag
  | .columnGroup, .endTag name => Table.endInColumns b name
  | .caption, .spaces data | .cell, .spaces data | .columnGroup, .spaces data
  | .select, .spaces data | .selectInTable, .spaces data => done (b.insertText data)
  | .select, .text data | .selectInTable, .text data => done (Selection.text b data)
  | .select, .startTag tag => Selection.startTag b tag
  | .select, .endTag name => done (Selection.endTag b name)
  | .selectInTable, .startTag tag => Selection.startInTable b tag
  | .selectInTable, .endTag name => Selection.endInTable b name
  | .table, .text data | .tableBody, .text data | .row, .text data =>
    done (Table.collect b (if data == [Char.ofNat 0] then [] else data))
  | .table, .spaces data | .tableBody, .spaces data | .row, .spaces data =>
    done (Table.collect b data)
  | .table, .startTag tag => Table.startInTable b tag
  | .table, .endTag name => Table.endInTable b name
  | .tableBody, .startTag tag => Table.startInGroup b tag
  | .tableBody, .endTag name => Table.endInGroup b name
  | .row, .startTag tag => Table.startInRow b tag
  | .row, .endTag name => Table.endInRow b name

/-- Processes a token until it is done with, at most a number of times. -/
def processUpTo : Nat → Builder → Token → Builder
  | 0, b, _ => b
  | n + 1, b, t =>
    match b.processOnce t with
    | (b, true) => processUpTo n b t
    | (b, false) => b

/-- Processes a token. Each repetition closes an element or enters a part of a table. -/
def process (b : Builder) (t : Token) : Builder := processUpTo (2 * b.stack.length + 16) b t

/-- Ends the document. -/
def finish (b : Builder) : Builder := if b.phase == .tableText then Table.flush b else b

/-- The nodes of the listed children of the root, and the text among them. -/
def nodes (b : Builder) : List Node :=
  let (b, root) := b.newCell "" []
  let forest := b.forest.moveChildren 0 root
  forest.nodes forest.size root

end Builder

/-- The nodes of a fragment. -/
def parseFragment (allowed : String → Bool) (document : List Char) : List Node :=
  ((scan allowed document).foldl Builder.process {}).finish.nodes

end StaticSite.Html
