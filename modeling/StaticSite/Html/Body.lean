import StaticSite.Html.Builder

/-!
# Tokens in running content

How text, start tags and end tags act outside the frames of tables and outside of selections. A
start tag gives, beside the new state, whether it is to be processed once more.
-/

namespace StaticSite.Html.Builder

/-- A new state, and whether the token is to be processed once more. -/
abbrev Outcome := Builder × Bool

/-- A state that is done with the token. -/
def done (b : Builder) : Outcome := (b, false)

/-- A state in which the token is processed once more. -/
def again (b : Builder) : Outcome := (b, true)

/-- A state in which the token is processed once more if a condition holds. -/
def againIf (c : Bool) (b : Builder) : Outcome := (b, c)

namespace Body

/-- Text. A null character is dropped. -/
def text (b : Builder) (data : List Char) : Builder :=
  if data == [Char.ofNat 0] then b else b.reopenFormatting.insertText data

/-- Blanks. The first line feed in preformatted text is dropped. -/
def spaces (b : Builder) (data : List Char) : Builder :=
  let drops := b.dropsNewline && data.head? == some '\n' &&
    ["pre", "textarea"].contains b.currentName && !b.forest.hasContent b.current
  let data := if drops then data.drop 1 else data
  let waiting := b.dropsNewline
  let b := { b with dropsNewline := false }
  if waiting && data.isEmpty then b else b.reopenFormatting.insertText data

/-- Closes a paragraph. -/
def closeParagraph (b : Builder) : Builder := (b.closeImplied "p").popTo "p"

/-- Closes a paragraph if one is open. -/
def endParagraph (b : Builder) : Builder := if b.inParagraph then closeParagraph b else b

/-- The end tag of a paragraph; without a paragraph an empty one is made. -/
def endParagraphTag (b : Builder) : Builder :=
  if b.inParagraph then closeParagraph b
  else closeParagraph (b.insertElement (.plain "p"))

/-- The end tag of a block. -/
def endBlock (b : Builder) (name : String) : Builder :=
  let b := if name == "pre" then { b with dropsNewline := false } else b
  if b.inScope name then b.closeImplied.popTo name else b

/-- The end tag of a form. -/
def endForm (b : Builder) : Builder :=
  let form := b.form
  let b := { b with form := none }
  match form with
  | some i =>
    if b.inScopeOf (· == i) fun j => scopeBounds.contains (b.name j) then
      let b := b.closeImplied
      { b with stack := b.stack.erase i }
    else b
  | none => b

/-- The end tag of an item. -/
def endItem (b : Builder) (name : String) : Builder :=
  let bounds := if name == "li" then ["ol", "ul"] ++ scopeBounds else scopeBounds
  if b.inScope name bounds then (b.closeImplied name).popTo name else b

/-- The end tag of a heading, which closes any heading. -/
def endHeading (b : Builder) : Builder :=
  let isOpen (b : Builder) : Bool := headings.any fun h => b.inScope h
  let b := if isOpen b then b.closeImplied else b
  if isOpen b then b.popThrough fun i => headings.contains (b.name i) else b

/-- An end tag. -/
def endTag (b : Builder) (name : String) : Builder :=
  if name == "p" then endParagraphTag b
  else if name == "form" then endForm b
  else if name == "br" then b.reopenFormatting.insertEmpty (.plain "br")
  else if ["dd", "dt", "li"].contains name then endItem b name
  else if headings.contains name then endHeading b
  else if formattingElements.contains name then b.closeFormatting 8 name
  else if closableBlocks.contains name then endBlock b name
  else b.closeOther name

/-- An end tag that is implied while a start tag is processed. -/
def impliedEnd (b : Builder) (name : String) : Builder :=
  let frame := b.phase.isFrame
  let b := endTag b name
  if frame then { b with fostering := false } else b

/-- Closes the item that a new item follows. -/
def endPreviousItem (b : Builder) (names : List String) : Builder :=
  let stops (i : Nat) : Bool :=
    specialElements.contains (b.name i) && !(["address", "div", "p"].contains (b.name i))
  match b.stack.find? fun i => names.contains (b.name i) || stops i with
  | some i => if names.contains (b.name i) then impliedEnd b (b.name i) else b
  | none => b

/-- The start tag of an item. -/
def startItem (b : Builder) (tag : Tag) : Builder :=
  let b := endPreviousItem b (if tag.name == "li" then ["li"] else ["dt", "dd"])
  let b := if b.inParagraph then impliedEnd b "p" else b
  b.insertElement tag

/-- The start tag of a link, which ends a link that is open. -/
def startLink (b : Builder) (tag : Tag) : Builder :=
  let b :=
    match b.formattingElement? "a" with
    | some i =>
      let b := b.closeFormatting 8 "a"
      { b.dropFormatting i with stack := b.stack.erase i }
    | none => b
  (b.reopenFormatting.insertElement tag).rememberFormatting

/-- The start tag of a heading, which ends a heading that is current. -/
def startHeading (b : Builder) (tag : Tag) : Builder :=
  let b := endParagraph b
  let b := if headings.contains b.currentName then b.pop else b
  b.insertElement tag

/-- The start tag of a form; there is none inside another. -/
def startForm (b : Builder) (tag : Tag) : Builder :=
  if b.form.isSome then b
  else
    let b := (endParagraph b).insertElement tag
    { b with form := some b.current }

/-- The start tag of a selection. -/
def startSelect (b : Builder) (tag : Tag) : Builder :=
  let b := b.reopenFormatting.insertElement tag
  { b with phase := if b.phase.isInTable then .selectInTable else .select }

/-- The start tag of an option. -/
def startOption (b : Builder) (tag : Tag) : Builder :=
  let b := if b.currentName == "option" then impliedEnd b "option" else b
  b.reopenFormatting.insertElement tag

/-- A start tag. -/
def startTag (b : Builder) (tag : Tag) : Outcome :=
  let name := tag.name
  if name == "a" then done (startLink b tag)
  else if formattingElements.contains name then
    done (b.reopenFormatting.insertElement tag).rememberFormatting
  else if paragraphEnders.contains name then done ((endParagraph b).insertElement tag)
  else if headings.contains name then done (startHeading b tag)
  else if name == "pre" then
    done { (endParagraph b).insertElement tag with dropsNewline := true }
  else if name == "form" then done (startForm b tag)
  else if ["li", "dd", "dt"].contains name then done (startItem b tag)
  else if name == "button" && b.inScope "button" then again (endTag b "button")
  else if name == "table" then
    done { (endParagraph b).insertElement tag with phase := .table }
  else if ["br", "img", "wbr", "input"].contains name then
    done (b.reopenFormatting.insertEmpty tag)
  else if name == "hr" then done ((endParagraph b).insertEmpty tag)
  else if name == "textarea" then done { b.insertElement tag with dropsNewline := true }
  else if name == "select" then done (startSelect b tag)
  else if ["rp", "rt"].contains name then
    done ((if b.inScope "ruby" then b.closeImplied else b).insertElement tag)
  else if ["option", "optgroup"].contains name then done (startOption b tag)
  else if tableParts.contains name then done b
  else done (b.reopenFormatting.insertElement tag)

end Body

end StaticSite.Html.Builder
