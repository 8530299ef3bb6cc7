import StaticSite.Html.Body

/-!
# Tokens in tables

How text and tags act inside the parts of a table. What is misplaced there is processed as running
content with `fostering` on, so that it ends up before the table; text is collected first, and
only text that is not blank is moved.
-/

namespace StaticSite.Html.Builder

/-- The phase for the innermost open element that decides it. -/
def phaseOf (b : Builder) : Phase :=
  let deciding := b.stack.dropLast.findSome? fun i =>
    match b.name i with
    | "select" => some Phase.select
    | "td" | "th" => some .cell
    | "tr" => some .row
    | "tbody" | "thead" | "tfoot" => some .tableBody
    | "caption" => some .caption
    | "colgroup" => some .columnGroup
    | "table" => some .table
    | _ => none
  deciding.getD .body

/-- Sets the phase. -/
def enter (b : Builder) (p : Phase) : Builder := { b with phase := p }

namespace Table

/-- Starts or goes on collecting text. -/
def collect (b : Builder) (data : List Char) : Builder :=
  if b.phase == .tableText then { b with pending := b.pending ++ data }
  else { b with pending := data, resumed := b.phase, phase := .tableText }

/-- Places the text that was collected. -/
def flush (b : Builder) : Builder :=
  let data := b.pending
  let b := { b with pending := [], phase := b.resumed }
  if data.all isSpace then (if data.isEmpty then b else b.insertText data)
  else { Body.text { b with fostering := true } data with fostering := false }

/-- A misplaced start tag. -/
def misplacedStart (b : Builder) (tag : Tag) : Builder :=
  { (Body.startTag { b with fostering := true } tag).1 with fostering := false }

/-- A misplaced end tag. -/
def misplacedEnd (b : Builder) (name : String) : Builder :=
  { Body.endTag { b with fostering := true } name with fostering := false }

/-- Closes elements down to the table. -/
def clearToTable (b : Builder) : Builder := b.popUntil ["table", "html"]

/-- Closes elements down to a group of rows. -/
def clearToGroup (b : Builder) : Builder := b.popUntil ["tbody", "tfoot", "thead", "html"]

/-- Closes elements down to a row. -/
def clearToRow (b : Builder) : Builder := b.popUntil ["tr", "html"]

/-- Opens a column group. -/
def openColumns (b : Builder) (tag : Tag) : Builder :=
  ((clearToTable b).insertElement tag).enter .columnGroup

/-- Opens a group of rows. -/
def openGroup (b : Builder) (tag : Tag) : Builder :=
  ((clearToTable b).insertElement tag).enter .tableBody

/-- Opens a row. -/
def openRow (b : Builder) (tag : Tag) : Builder :=
  ((clearToGroup b).insertElement tag).enter .row

/-- Whether the innermost table has an open group of rows. -/
def hasGroup (b : Builder) : Bool := rowGroups.any b.inTableScope

/-- Closes the current group of rows. -/
def closeGroup (b : Builder) : Builder := (clearToGroup b).pop.enter .table

/-- Closes the current row. -/
def closeRow (b : Builder) : Builder := (clearToRow b).pop.enter .tableBody

/-- Closes the caption. -/
def closeCaption (b : Builder) : Builder :=
  (b.closeImplied.popTo "caption").clearFormatting.enter .table

/-- Closes a column group, unless the stack is empty. -/
def closeColumns (b : Builder) : Outcome :=
  if b.currentName == "html" then done b else again (b.pop.enter .table)

/-- Closes a cell of a name. -/
def closeCellNamed (b : Builder) (name : String) : Builder :=
  ((b.closeImplied name).popTo name).clearFormatting.enter .row

/-- Closes the cell. -/
def closeCell (b : Builder) : Builder :=
  if b.inTableScope "td" then closeCellNamed b "td"
  else if b.inTableScope "th" then closeCellNamed b "th" else b

/-! ### End tags -/

/-- An end tag between the parts of a table. -/
def endInTable (b : Builder) (name : String) : Outcome :=
  if name == "table" then
    if b.inTableScope "table" then
      let b := b.closeImplied.popTo "table"
      done (b.enter b.phaseOf)
    else done b
  else if tableParts.contains name then done b
  else done (misplacedEnd b name)

/-- An end tag between rows. -/
def endInGroup (b : Builder) (name : String) : Outcome :=
  if rowGroups.contains name then
    done (if b.inTableScope name then closeGroup b else b)
  else if name == "table" then (if hasGroup b then again (closeGroup b) else done b)
  else if tableParts.contains name then done b
  else endInTable b name

/-- An end tag between cells. -/
def endInRow (b : Builder) (name : String) : Outcome :=
  let open_ := b.inTableScope "tr"
  if name == "tr" then done (if open_ then closeRow b else b)
  else if name == "table" then (if open_ then again (closeRow b) else done b)
  else if rowGroups.contains name then
    if b.inTableScope name then again (if open_ then closeRow b else b) else done b
  else if tableParts.contains name then done b
  else endInTable b name

/-- An end tag in a cell. -/
def endInCell (b : Builder) (name : String) : Outcome :=
  if cells.contains name then
    done (if b.inTableScope name then closeCellNamed b name else b)
  else if ["caption", "col", "colgroup"].contains name then done b
  else if tableFrames.contains name then
    if b.inTableScope name then again (closeCell b) else done b
  else done (Body.endTag b name)

/-- An end tag in a caption. -/
def endInCaption (b : Builder) (name : String) : Outcome :=
  let open_ := b.inTableScope "caption"
  if name == "caption" then done (if open_ then closeCaption b else b)
  else if name == "table" then (if open_ then again (closeCaption b) else done b)
  else if tableParts.contains name then done b
  else done (Body.endTag b name)

/-- An end tag among columns. -/
def endInColumns (b : Builder) (name : String) : Outcome :=
  if name == "colgroup" then done (closeColumns b).1
  else if name == "col" then done b
  else closeColumns b

/-! ### Start tags -/

/-- The start tag of a table inside a frame, which ends the frame and is dropped. -/
def startNested (b : Builder) : Builder :=
  match b.phase with
  | .tableBody => (endInGroup b "table").1
  | .row => (endInRow b "table").1
  | _ => (endInTable b "table").1

/-- Whether the tag is that of a hidden input. -/
def isHidden (tag : Tag) : Bool :=
  match attribute? "type" tag.attributes with
  | some kind => kind.toList.map Char.toLower == "hidden".toList
  | none => false

/-- A start tag between the parts of a table. -/
def startInTable (b : Builder) (tag : Tag) : Outcome :=
  let name := tag.name
  if name == "caption" then
    done (((clearToTable b).markFormatting.insertElement tag).enter .caption)
  else if name == "colgroup" then done (openColumns b tag)
  else if name == "col" then again (openColumns b (.plain "colgroup"))
  else if rowGroups.contains name then done (openGroup b tag)
  else if ["td", "th", "tr"].contains name then again (openGroup b (.plain "tbody"))
  else if name == "table" then done (startNested b)
  else if name == "input" && isHidden tag then done (b.insertEmpty tag)
  else if name == "form" then
    if b.form.isSome then done b
    else
      -- A form between the parts of a table is closed at once.
      let b := b.insertElement tag
      done { b with form := some b.current, stack := b.stack.drop 1 }
  else done (misplacedStart b tag)

/-- A start tag between rows. -/
def startInGroup (b : Builder) (tag : Tag) : Outcome :=
  let name := tag.name
  if name == "tr" then done (openRow b tag)
  else if cells.contains name then again (openRow b (.plain "tr"))
  else if ["caption", "col", "colgroup", "tbody", "tfoot", "thead"].contains name then
    if hasGroup b then again (closeGroup b) else done b
  else startInTable b tag

/-- A start tag between cells. -/
def startInRow (b : Builder) (tag : Tag) : Outcome :=
  let name := tag.name
  if cells.contains name then
    done (((clearToRow b).insertElement tag).enter .cell).markFormatting
  else if tableParts.contains name then
    if b.inTableScope "tr" then again (closeRow b) else done b
  else startInTable b tag

/-- A start tag in a cell. -/
def startInCell (b : Builder) (tag : Tag) : Outcome :=
  if tableParts.contains tag.name then
    if cells.any b.inTableScope then again (closeCell b) else done b
  else Body.startTag b tag

/-- A start tag in a caption. -/
def startInCaption (b : Builder) (tag : Tag) : Outcome :=
  if tableParts.contains tag.name then
    if b.inTableScope "caption" then again (closeCaption b) else done b
  else Body.startTag b tag

/-- A start tag among columns. -/
def startInColumns (b : Builder) (tag : Tag) : Outcome :=
  if tag.name == "col" then done (b.insertEmpty tag) else closeColumns b

end Table

end StaticSite.Html.Builder
