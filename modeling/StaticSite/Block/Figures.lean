import StaticSite.Block.Context
import StaticSite.Block.Scripts
import StaticSite.Html.Script
import StaticSite.Json.Printer
import StaticSite.Number.Arithmetic
import StaticSite.Widget.Comparison

/-!
# Figures

Blocks that show figures: percentages in rings, which may be shown by group, and tables of data,
which may be sorted.
-/

namespace StaticSite.Block

/-! ### Percentages -/

/-- The radius of a ring. -/
def ringRadius : Nat := 36

/-- The length of a ring, `2π` times its radius, as a whole number. -/
def ringLength : Nat := 226

/-- The part of a ring that is left out for a percentage; a half goes up. -/
def ringGap (percent : Nat) : Nat := (ringLength * (100 - percent) + 50) / 100

/-- A whole percentage. What is infinite counts as none. -/
def percentOf (n : Numeral) : Except BlockError Nat := do
  let x ← BlockError.ofNumber n.toBinary64?
  if x.isFinite then
    let rounded ← BlockError.ofInteger (Arithmetic.roundHalfUp x)
    return (max 0 (min 100 rounded)).toNat
  else return 0

/-- The class and the sign of a trend. -/
def trendSign? (trend : String) : Option (String × String) :=
  if trend == "up" then some ("stat-trend--up", "↑")
  else if trend == "down" then some ("stat-trend--down", "↓")
  else if trend == "flat" then some ("stat-trend--flat", "→")
  else none

/-- The group of a figure. -/
def statGroup (stat : Fields) : String := (stat.text? "group").getD "General"

/-- The attributes of a ring. -/
def ringShape (attrs : List Markup) (color : String) : List Markup :=
  attrs ++ [attr "cx" "40", attr "cy" "40", attr "r" (toString ringRadius), attr "fill" "none",
    attr "stroke" color, attr "stroke-width" "6"]

/-- A circle of a drawing. -/
def circle (attrs : List Markup) : Markup :=
  html "<circle" ++ Markup.concat attrs ++ html "/>"

/-- A ring of which a percentage is filled, with the percentage inside. -/
def ring (percent : Nat) : List Markup :=
  let fill := ringShape [cls "stat-ring-fill"] "var(--color-accent,#2563eb)" ++
    [attr "stroke-linecap" "round", attr "stroke-dasharray" (toString ringLength),
     attr "stroke-dashoffset" (toString (ringGap percent)),
     attr "transform" "rotate(-90 40 40)"]
  [.indent 2 <| startTag "div" [cls "stat-ring-wrap"],
   .indent 4 <| startTag "svg"
    [cls "stat-ring", attr "viewBox" "0 0 80 80", attr "width" "80", attr "height" "80"],
   .indent 6 <| circle (ringShape [] "var(--color-border,#e2e8f0)"),
   .indent 6 <| circle fill,
   .indent 4 <| endTag "svg",
   .indent 4 <| el "span"
    [cls "stat-ring-value", attr "data-count" (toString percent), attr "data-suffix" "%"]
    (esc (toString percent ++ "%")),
   .indent 2 <| endTag "div"]

/-- The card of a figure. -/
def statCard (stat : Fields) : BlockResult := do
  let percent ← percentOf ((stat.number? "metricValue").getD .zero)
  let text := toString percent
  let trend := Markup.whenSome (trendSign? (stat.text "trend")) fun (className, sign) =>
    el "span" [cls ("stat-trend " ++ className)] (esc sign)
  let bar := el "span" [attr "style" ("width:" ++ text ++ "%")] .empty
  return Markup.lines
    ([startTag "div" [cls "infographic-card", attr "data-group" (statGroup stat)],
      .indent 2 <| textIn "span" "stat-icon" (stat.text? "icon")] ++
      ring percent ++
      [.indent 2 <| el "h3" [] (esc (stat.text "title" ++ " ") ++ trend),
       .indent 2 <| el "p" [cls "infographic-summary"] (esc (stat.text "summary")),
       .indent 2 <| startTag "div" [cls "infographic-meter"],
       .indent 4 <| el "span" [cls "infographic-meter-label"] (esc (stat.text "metricLabel")),
       .indent 4 <| el "span" [attr "data-count" text, attr "data-suffix" "%"]
        (esc (text ++ "%")),
       .indent 2 <| endTag "div",
       .indent 2 <| el "div" [cls "infographic-bar"] bar,
       endTag "div"])

/-- A button that shows a group of figures. -/
def groupChip (className group label : String) : Markup :=
  el "button" [attr "type" "button", cls className, attr "data-group" group] (esc label)

/-- The buttons that show all figures, or one group. -/
def groupChips (groups : List String) : Markup :=
  Markup.lines
    [startTag "div" [cls "infographic-chips"],
     .indent 2 <| groupChip "infographic-chip active" "all" "All",
     .indent 2 <| Markup.joinWith "\n  "
      (groups.map fun g => groupChip "infographic-chip" g g),
     endTag "div"]

/-- Figures in a grid. With several groups they can be shown one group at a time. -/
def statGrid (b : Block) : BlockResult := do
  let stats := b.content.recordsWith "items" "title"
  let groups := (stats.map statGroup).eraseDups
  let filterable := b.config.flag "filterable" true && 1 < groups.length
  let id := "stat-grid-" ++ b.id
  let cards ← stats.mapM statCard
  return Markup.when (!stats.isEmpty)
    (Markup.lines
      [startTag "section" [cls "infographic-shell", attr "id" id],
       .indent 2 <| sectionHeading (b.content.text? "title"),
       .indent 2 <| el "div" [cls "infographic-toolbar"]
        (Markup.when filterable (groupChips groups)),
       .indent 2 <| el "div" [cls "infographic-grid"] (Markup.lines cards),
       .indent 2 <| Markup.when filterable (script (chipsScript (Json.str id).inScript)),
       endTag "section"])

/-! ### Tables -/

/-- The heading of a column. -/
def columnHeading (sortable : Bool) (index : Nat) (label : String) : Markup :=
  if sortable then
    el "th"
      [attr "scope" "col", attr "data-sort-col" (toString index), attr "role" "button",
       attr "tabindex" "0"]
      (esc (label ++ " ") ++ sortIndicator)
  else el "th" [attr "scope" "col"] (esc label)

/-- The text of a cell; an integer is written without a point. -/
def cellText (v : Json) : Except BlockError String :=
  match Fields.numeral? v with
  | some n => BlockError.ofNumber n.plainText?
  | none => return v.display

/-- The cell for a value. -/
def dataCell (v : Json) : BlockResult := do return valueCell (← cellText v)

/-- The row for a list of values. -/
def dataRow (cells : List Json) : BlockResult := do
  return el "tr" [] (Markup.concat (← cells.mapM dataCell))

/-- A table of data. One without headings or without rows is left out. -/
def dataTable (b : Block) : BlockResult := do
  let headings := (b.content.items "headers").map Json.display
  let rows := (b.content.items "rows").filterMap Json.asArray?
  if headings.isEmpty || rows.isEmpty then return .empty
  else
    let sortable := b.config.flag "sortable" true
    let id := "data-table-" ++ b.id
    let body ← rows.mapM dataRow
    let caption := Markup.whenSome (b.content.text? "caption") fun c => el "caption" [] (esc c)
    let head := el "tr" [] (Markup.concat (headings.mapIdx (columnHeading sortable)))
    return Markup.lines
      [startTag "section" [cls "data-table-section"],
       .indent 2 <| sectionHeading (b.content.text? "title"),
       .indent 2 <| startTag "div" [cls "data-table-wrapper"],
       .indent 4 <| el "table" [cls "data-table", attr "id" id]
        (caption ++ el "thead" [] head ++ el "tbody" [] (Markup.lines body)),
       .indent 2 <| endTag "div",
       .indent 2 <| Markup.when sortable (script (tableSortScript (Json.str id).inScript)),
       endTag "section"]

end StaticSite.Block
