import StaticSite.Markdown.LineSyntax
import StaticSite.Markdown.Mark

/-!
# Tables of articles

A table is a block whose second line consists of hyphens, colons, spaces and as many bars as the
first line. Bars inside code and escaped bars separate no cells.
-/

namespace StaticSite.Markdown.Table

/-- A run of grave accents in a row: where it begins and ends, how many accents it counts for, and
how many of them open code. -/
structure Tick where
  first : Nat
  last : Nat
  closing : Nat
  opening : Nat
deriving Repr

/-- The runs of grave accents and the places of the bars of a row, from a place on. Escaped
backslashes and bars are passed over, and an escaped run opens with one accent less. -/
def scanRow : Nat → Nat → List Char → List Tick × List Nat
  | _, _, [] => ([], [])
  | skip + 1, place, _ :: cs => scanRow skip (place + 1) cs
  | 0, place, c :: cs =>
    let next := scanRow 0 (place + 1) cs
    if c == '|' then (next.1, place :: next.2)
    else if c == grave then
      let length := ((c :: cs).takeWhile (· == grave)).length
      let (ticks, bars) := scanRow (length - 1) (place + 1) cs
      (⟨place, place + length - 1, length, length⟩ :: ticks, bars)
    else if c == '\\' then
      let d := cs.headD ' '
      if d == '\\' || d == '|' then scanRow 1 (place + 1) cs
      else if d == grave then
        let length := (cs.takeWhile (· == grave)).length
        let (ticks, bars) := scanRow length (place + 1) cs
        (⟨place, place + length, length, length - 1⟩ :: ticks, bars)
      else next
    else next
termination_by _ _ cs => cs.length

/-- The stretches of code: each run opens code up to the next run that closes it. -/
def codeRegions : Nat → List Tick → List (Nat × Nat)
  | 0, _ => []
  | _, [] => []
  | n + 1, t :: ticks =>
    -- A single accent that is escaped opens nothing.
    if t.opening == 0 then codeRegions n ticks
    else
      match ticks.dropWhile fun u => u.closing != t.opening with
      | u :: rest => (t.first, u.last) :: codeRegions n rest
      | [] => codeRegions n ticks

/-- Cuts a text at places, counted from `start`, leaving out the characters there. -/
def cutAt (start : Nat) (cs : List Char) : List Nat → List (List Char)
  | [] => [cs]
  | place :: places =>
    cs.take (place - start) :: cutAt (place + 1) (cs.drop (place + 1 - start)) places

/-- The cells of a row without its borders. -/
def splitCells (row : List Char) : List (List Char) :=
  let (ticks, bars) := scanRow 0 0 row
  let regions := codeRegions ticks.length ticks
  let inCode (bar : Nat) : Bool := regions.any fun (first, last) => first ≤ bar && bar ≤ last
  cutAt 0 row (bars.filter fun bar => !inCode bar)

/-- Whether a row ends with a bar that is not escaped. -/
def endsWithBar (row : List Char) : Bool :=
  match row.reverse with
  | '|' :: rest => (rest.takeWhile (· == '\\')).length % 2 == 0
  | _ => false

/-- The cells of a row; `bordered` tells whether bars at its ends are borders. -/
def rowCells (bordered : Bool) (row : List Char) : List (List Char) :=
  if bordered then
    let row := if row.head? == some '|' then row.drop 1 else row
    splitCells (if endsWithBar row then row.dropLast else row)
  else splitCells row

/-- A line without spaces at its ends. -/
def trimSpaces (cs : List Char) : List Char := Text.stripChars (· == ' ') cs

/-- Whether the header row of a table has borders. -/
def isBordered (header : List Char) : Bool :=
  header.head? == some '|' || endsWithBar header

/-- Whether the lines of a block are those of a table. -/
def isTable (lines : List (List Char)) : Bool :=
  match lines.map trimSpaces with
  | header :: separator :: rest =>
    let bordered := isBordered header
    let width := (rowCells bordered header).length
    let hasBar (row : List Char) : Bool := row.head? == some '|' || endsWithBar row
    let marks := rowCells bordered separator
    (1 < width || (bordered && (separator :: rest).all hasBar)) && marks.length == width &&
      marks.flatten.all fun c => c == '|' || c == ':' || c == '-' || c == ' '
  | _ => false

/-- A row of a given width. -/
def rowElement (tag : String) (width : Nat) (cells : List (List Char)) : Element :=
  { tag := "tr"
    children := (List.range width).map fun i =>
      { tag, text := trimSpaces (cells.getD i []) } }

/-- The table of some lines. -/
def element (lines : List (List Char)) : Element :=
  let rows := lines.map trimSpaces
  let header := rows.headD []
  let bordered := isBordered header
  let width := (rowCells bordered (rows.getD 1 [])).length
  let body := rows.drop 2
  let bodyRows :=
    if body.isEmpty then [rowElement "td" width []]
    else body.map fun row => rowElement "td" width (rowCells bordered row)
  { tag := "table"
    children :=
      [{ tag := "thead", children := [rowElement "th" width (rowCells bordered header)] },
       { tag := "tbody", children := bodyRows }] }

end StaticSite.Markdown.Table
