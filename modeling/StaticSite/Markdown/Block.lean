import StaticSite.Markdown.LineSyntax
import StaticSite.Markdown.Table

/-!
# Blocks of an article

The text of an article is cut into blocks at empty lines. `readBlocks` adds the elements of a list
of blocks to a parent: headings, rules, code, tables, lists, quotations and paragraphs. A list or a
quotation reads what it holds as blocks again, in a mode of its own.

Each step takes the first block and may put a shorter one back; so the length of the text bounds
the number of steps.
-/

namespace StaticSite.Markdown

/-- What the innermost block around a text is. -/
inductive BlockMode where
  | plain
  | tightList
  | looseList
  | dedented
  | quotation
deriving DecidableEq, Repr

/-- A parent with the blocks that were read, the blocks that remain, and the references so far. -/
structure BlockStep where
  parent : Element
  rest : List (List Char)
  references : References

/-- Reads blocks into a parent. -/
abbrev BlockReader :=
  BlockMode → Element → List (List Char) → References → Element × References

/-- Cuts a text into blocks. -/
def splitBlocks (cs : List Char) : List (List Char) := Text.splitFrom '\n' ['\n'] 0 cs []

/-- A block in front of others, unless it is empty. -/
def consBlock (block : List Char) (rest : List (List Char)) : List (List Char) :=
  if block.isEmpty then rest else block :: rest

/-- The lines of a block before the first that satisfies `p`, that line, and those after it. -/
def splitAtLine? (p : List Char → Bool) (lines : List (List Char)) :
    Option (List (List Char) × List Char × List (List Char)) :=
  let before := lines.takeWhile fun l => !p l
  match lines.drop before.length with
  | line :: after => some (before, line, after)
  | [] => none

/-- Removes one level of indentation, as long as lines are indented or blank; and the lines from
the first other one on. -/
def dedent (block : List Char) : List Char × List Char :=
  let lines := splitLines block
  let inner := lines.takeWhile fun l => isIndented l || l.all Text.isBlank
  (joinLines (inner.map fun l => if isIndented l then l.drop tabWidth else []),
    joinLines (lines.drop inner.length))

/-- Removes some levels of indentation from the lines that have them. -/
def looseDedent (levels : Nat) (block : List Char) : List Char :=
  let indent := List.replicate (tabWidth * levels) ' '
  joinLines ((splitLines block).map fun l =>
    if indent.isPrefixOf l then l.drop indent.length else l)

/-- The escaped form of a character of code. -/
def escapeCodeChar (c : Char) : List Char :=
  if c == '&' then "&amp;".toList
  else if c == '<' then "&lt;".toList
  else if c == '>' then "&gt;".toList
  else [c]

/-- Code as HTML. -/
def escapeCode (cs : List Char) : List Char := cs.flatMap escapeCodeChar

/-! ### Empty blocks and code -/

/-- Adds text to the code of a block of code. -/
def addCode (pre : Element) (data : List Char) : Element :=
  match pre.children with
  | code :: others =>
    { pre with children := { code with text := code.text ++ data, verbatim := true } :: others }
  | [] => pre

/-- An empty block, or a block that begins with an empty line. -/
def readEmpty (parent : Element) (block : List Char) (rest : List (List Char)) :
    Element × List (List Char) :=
  let filler := if block.isEmpty then ['\n', '\n'] else ['\n']
  let parent :=
    match parent.last? with
    | some pre => if pre.isCodeBlock then parent.setLast (addCode pre filler) else parent
    | none => parent
  (parent, consBlock (block.drop 1) rest)

/-- A block of code. -/
def readCode (parent : Element) (block : List Char) (rest : List (List Char)) :
    Element × List (List Char) :=
  let (code, others) := dedent block
  let data := escapeCode (Text.dropRightWhile Text.isBlank code) ++ ['\n']
  let new : Element :=
    { tag := "pre", children := [{ tag := "code", text := data, verbatim := true }] }
  let parent :=
    match parent.last? with
    | some pre =>
      if pre.isCodeBlock then parent.setLast (addCode pre ('\n' :: data)) else parent.push new
    | none => parent.push new
  (parent, consBlock others rest)

/-! ### Lists -/

/-- Moves the text of an item into a paragraph before its children. -/
def wrapItemText (item : Element) : Element :=
  if item.text.isEmpty then item
  else { item with text := [], children := { tag := "p", text := item.text } :: item.children }

/-- Moves the text after the last child of an item into a paragraph. -/
def wrapItemTail (item : Element) : Element :=
  match item.last? with
  | some child =>
    if child.tail.isEmpty then item
    else
      (item.setLast { child with tail := [] }).push
        { tag := "p", text := child.tail.dropWhile Text.isBlank }
  | none => item

/-- The items of a block: a marked line begins one, an indented item begins a nested one, and
other lines go on. -/
def listItems (lines : List (List Char)) : List (List Char) :=
  lines.foldl (fun items line =>
    let extend := items.dropLast ++ [(items.getLastD []) ++ '\n' :: line]
    match itemText? true true line with
    | some text => items ++ [text]
    | none =>
      if isIndentedItem line && !isIndented (items.getLastD []) then items ++ [line]
      else extend) []

/-- Adds items to a list. An indented item goes on with the last one. -/
def addItems (read : BlockReader) (list : Element) (items : List (List Char))
    (refs : References) : Element × References :=
  items.foldl (fun (list, refs) item =>
    match list.last? with
    | some last =>
      if isIndented item then
        let (last, refs) := read .tightList last [item] refs
        (list.setLast last, refs)
      else
        let (li, refs) := read .tightList { tag := "li" } [item] refs
        (list.push li, refs)
    | none =>
      let (li, refs) := read .tightList { tag := "li" } [item] refs
      (list.push li, refs)) (list, refs)

/-- A block of items, which goes on with a list that precedes it. -/
def readList (read : BlockReader) (tag : String) (parent : Element) (block : List Char)
    (refs : References) : Element × References :=
  let items := listItems (splitLines block)
  match parent.last? with
  | some list =>
    if list.isList then
      let list :=
        match list.last? with
        | some item => list.setLast (wrapItemTail (wrapItemText item))
        | none => list
      -- A blank line between two items makes both of them loose.
      let (li, refs) := read .looseList { tag := "li" } [items.headD []] refs
      let (list, refs) := addItems read (list.push li) (items.drop 1) refs
      (parent.setLast list, refs)
    else if parent.isList then addItems read parent items refs
    else
      let (list, refs) := addItems read { tag } items refs
      (parent.push list, refs)
  | none =>
    if parent.isList then addItems read parent items refs
    else
      let (list, refs) := addItems read { tag } items refs
      (parent.push list, refs)

/-- Changes a descendant, going down by last children. -/
def updateLast (f : Element → References → Element × References) :
    Nat → Element → References → Element × References
  | 0, e, refs => f e refs
  | n + 1, e, refs =>
    match e.last? with
    | some child =>
      let (child, refs) := updateLast f n child refs
      (e.setLast child, refs)
    | none => f e refs

/-- How far down, by last children, the element is that an indented block belongs to: the levels of
lists that were passed, and the number of steps. -/
def findLevel (indent : Nat) : Nat → Nat → Element → Nat × Nat
  | 0, level, _ => (level, 0)
  | n + 1, level, e =>
    if indent ≤ level then (level, 0)
    else
      match e.last? with
      | some child =>
        if child.isList || child.isItem then
          let (found, steps) := findLevel indent n (if child.isList then level + 1 else level) child
          (found, steps + 1)
        else (level, 0)
      | none => (level, 0)

/-- Reads an indented block into the element that it belongs to. -/
def readInto (read : BlockReader) (block : List Char) (e : Element) (refs : References) :
    Element × References :=
  if e.isItem then read .dedented e [block] refs
  else
    match e.last? with
    | some item =>
      if item.isItem then
        let (item, refs) := read .dedented (wrapItemText item) (splitBlocks block) refs
        (e.setLast item, refs)
      else
        let (li, refs) := read .dedented { tag := "li" } [block] refs
        (e.push li, refs)
    | none =>
      let (li, refs) := read .dedented { tag := "li" } [block] refs
      (e.push li, refs)

/-- A block that is indented inside a list. -/
def readIndented (read : BlockReader) (mode : BlockMode) (parent : Element) (block : List Char)
    (refs : References) : Element × References :=
  let indent := indentLevel block
  let start := if mode == .tightList then 1 else 0
  let (level, steps) := findLevel indent (2 * block.length + 2) start parent
  let block := looseDedent level block
  if parent.isItem then
    -- A list that the item ends with is what the block belongs to.
    match parent.last? with
    | some list =>
      if list.isList then
        let (list, refs) := read .dedented list [block] refs
        (parent.setLast list, refs)
      else read .dedented parent [block] refs
    | none => read .dedented parent [block] refs
  else updateLast (readInto read block) steps parent refs

/-- Whether a block is indented inside a list. -/
def isIndentedBlock (mode : BlockMode) (parent : Element) (block : List Char) : Bool :=
  isIndented block && mode != .dedented &&
    (parent.isItem || (parent.last?.map (·.isList)).getD false)

/-! ### Quotations and paragraphs -/

/-- A line of a quotation without its mark. -/
def cleanQuoted (line : List Char) : List Char :=
  if Text.stripList line == ['>'] then []
  else (quotedText? line).getD line

/-- A block with a quotation. -/
def readQuote (read : BlockReader) (mode : BlockMode) (parent : Element)
    (before : List (List Char)) (quoted : List (List Char)) (refs : References) :
    Element × References :=
  let (parent, refs) := read mode parent [joinLines before] refs
  let text := joinLines (quoted.map cleanQuoted)
  -- The line feed before the quotation is a part of it.
  let text := if before.isEmpty then text else '\n' :: text
  match parent.last? with
  | some quote =>
    if quote.tag == "blockquote" then
      let (quote, refs) := read .quotation quote (splitBlocks text) refs
      (parent.setLast quote, refs)
    else
      let (quote, refs) := read .quotation { tag := "blockquote" } (splitBlocks text) refs
      (parent.push quote, refs)
  | none =>
    let (quote, refs) := read .quotation { tag := "blockquote" } (splitBlocks text) refs
    (parent.push quote, refs)

/-- A paragraph; in a tight list its text belongs to the item itself. -/
def readParagraph (mode : BlockMode) (parent : Element) (block : List Char) : Element :=
  if block.all Text.isBlank then parent
  else if mode == .tightList then
    match parent.last? with
    | some child => parent.setLast { child with tail := child.tail ++ '\n' :: block }
    | none =>
      let text := block.dropWhile Text.isBlank
      { parent with
        text := if parent.text.isEmpty then text else parent.text ++ '\n' :: text }
  else parent.push { tag := "p", text := block.dropWhile Text.isBlank }

/-- Reads lines before a heading or a rule. -/
def readBefore (read : BlockReader) (mode : BlockMode) (parent : Element) (block : List Char)
    (refs : References) : Element × References :=
  if block.isEmpty then (parent, refs) else read mode parent [block] refs

/-- The tag of a heading. -/
def headingTag (level : Nat) : String := "h" ++ toString level

/-- Reads one block. -/
def readBlock (read : BlockReader) (mode : BlockMode) (parent : Element) (block : List Char)
    (rest : List (List Char)) (refs : References) : BlockStep :=
  let lines := splitLines block
  let first := lines.headD []
  if first.isEmpty then
    let (parent, rest) := readEmpty parent block rest
    ⟨parent, rest, refs⟩
  else if isIndentedBlock mode parent block then
    let (parent, refs) := readIndented read mode parent block refs
    ⟨parent, rest, refs⟩
  else if isIndented block then
    let (parent, rest) := readCode parent block rest
    ⟨parent, rest, refs⟩
  else if Table.isTable lines then ⟨parent.push (Table.element lines), rest, refs⟩
  else match splitAtLine? (fun l => (heading? l).isSome) lines with
  | some (before, line, after) =>
    let (level, text) := (heading? line).getD (1, [])
    let (parent, refs) := readBefore read mode parent (joinLines before) refs
    let after := joinLines after
    let after := if mode == .looseList then looseDedent 1 after else after
    ⟨parent.push { tag := headingTag level, text }, consBlock after rest, refs⟩
  | none =>
  if isUnderline (lines.getD 1 []) then
    let level := if (lines.getD 1 []).head? == some '=' then 1 else 2
    let heading : Element := { tag := headingTag level, text := Text.stripList first }
    ⟨parent.push heading, if 2 < lines.length then joinLines (lines.drop 2) :: rest else rest, refs⟩
  else match splitAtLine? isRule lines with
  | some (before, _, after) =>
    let before := Text.dropRightWhile (· == '\n') (joinLines before)
    let (parent, refs) := readBefore read mode parent before refs
    ⟨parent.push { tag := "hr" }, consBlock ((joinLines after).dropWhile (· == '\n')) rest, refs⟩
  | none =>
  if (itemText? false true first).isSome then
    let (parent, refs) := readList read "ol" parent block refs
    ⟨parent, rest, refs⟩
  else if (itemText? true false first).isSome then
    let (parent, refs) := readList read "ul" parent block refs
    ⟨parent, rest, refs⟩
  else match splitAtLine? (fun l => (quotedText? l).isSome) lines with
  | some (before, line, after) =>
    let (parent, refs) := readQuote read mode parent before (line :: after) refs
    ⟨parent, rest, refs⟩
  | none =>
  match findDefinition? block with
  | some d =>
    let after := d.after.dropWhile (· == '\n')
    let before := Text.dropRightWhile (· == '\n') d.before
    let rest := if d.after.all Text.isBlank then rest else after :: rest
    let rest := if d.before.all Text.isBlank then rest else before :: rest
    ⟨parent, rest, refs.define d.name d.reference⟩
  | none => ⟨readParagraph mode parent block, rest, refs⟩

/-- Reads blocks into a parent, in a number of steps. -/
def readBlocks : Nat → BlockReader
  | 0, _, parent, _, refs => (parent, refs)
  | _, _, parent, [], refs => (parent, refs)
  | n + 1, mode, parent, block :: rest, refs =>
    let step := readBlock (readBlocks n) mode parent block rest refs
    readBlocks n mode step.parent step.rest step.references

/-- The elements of a text, under a root, and its references. -/
def readDocument (cs : List Char) : Element × References :=
  readBlocks (4 * cs.length + 16) .plain { tag := "div" } (splitBlocks cs) []

end StaticSite.Markdown
