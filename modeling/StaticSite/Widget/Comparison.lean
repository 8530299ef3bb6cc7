import StaticSite.Content.Comparison
import StaticSite.Html.Script
import StaticSite.Number.Decimal
import StaticSite.Number.Notation
import StaticSite.Page.Error
import StaticSite.Widget.Scripts

/-!
# Comparisons and reviews

Options with a score in each column are shown as a table that can be sorted, or as a card for each
option with its rating and lists of its merits and faults.

* `Comparison.table` is the table and `Comparison.sorter` its script.
* `ComparisonOption.card` is the card of an option.
-/

namespace StaticSite

/-!
## Ratings

A rating is shown by stars, of which there are five, and by its number.
-/

/-- As many full stars as there are whole points in a rating, and empty ones up to five. -/
def stars (rating : Int) : String :=
  let full := (max 0 (min 5 rating)).toNat
  String.ofList (List.replicate full '★' ++ List.replicate (5 - full) '☆')

/-- The stars of a rating, the fraction of a point not counted. -/
def Binary64.stars (rating : Binary64) : Except PageError String :=
  PageError.ofInteger (rating.truncate?.map StaticSite.stars)

/-- The stars of a rating, and its number. -/
def starsText (rating : Binary64) : Except PageError String := do
  return (← rating.stars) ++ " " ++ rating.plainText ++ "/5"

/-! ## Options -/

/-- The attributes of a link to what is compared. -/
def visitLink (url className : String) : List Markup :=
  [attr "href" url, cls className, attr "rel" "nofollow noopener sponsored",
   attr "target" "_blank"]

/-- A cell whose value is its text. -/
def valueCell (text : String) : Markup := el "td" [attr "data-value" text] (esc text)

/-- The text of a score. -/
def Score.display : Score → String
  | .number x => x.plainText
  | .text s => s
  | .list items => ", ".intercalate items

/-- The cell of a score. -/
def scoreCell (kind : ColumnKind) : Option Score → Except PageError Markup
  | none => return el "td" [] (esc "—")
  | some (.number x) => do
    if kind = .rating then
      return el "td" [attr "data-value" x.plainText] (esc (← starsText x))
    else return valueCell x.plainText
  | some s => return valueCell s.display

/-- The sign beside the heading of a column that can be sorted. -/
def sortIndicator : Markup := el "span" [cls "sort-indicator"] (esc "↕")

/-- The heading of a column. -/
def ComparisonColumn.heading (c : ComparisonColumn) : Markup :=
  if c.sortable then
    el "th"
      [attr "scope" "col", attr "data-sort-key" c.key, attr "role" "button", attr "tabindex" "0"]
      (esc (c.label ++ " ") ++ sortIndicator)
  else el "th" [attr "scope" "col"] (esc c.label)

namespace ComparisonOption

/-- The score of an option under a key. -/
def score? (o : ComparisonOption) (key : String) : Option Score := o.scores.lookup key

/-- The badge of an option. -/
def badge? (o : ComparisonOption) : Option String := o.badge.filter fun b => !b.isEmpty

/-- The address of an option. -/
def url? (o : ComparisonOption) : Option String := o.url.filter fun u => !u.isEmpty

/-- The row of an option. -/
def row (columns : List ComparisonColumn) (o : ComparisonOption) : Except PageError Markup := do
  let badge := Markup.whenSome o.badge? fun b =>
    el "span" [cls "comparison-badge"] (esc b) ++ html " "
  let scores ← columns.mapM fun c => scoreCell c.kind (o.score? c.key)
  let visit := Markup.whenSome o.url? fun url => el "a" (visitLink url "cta-button") (esc "Visit")
  return el "tr" []
    (Markup.concat ([el "td" [] (badge ++ esc o.name)] ++ scores ++ [el "td" [] visit]))

end ComparisonOption

namespace Comparison

/-- The table of a comparison. -/
def table (c : Comparison) : Except PageError Markup := do
  let name := el "th" [attr "scope" "col"] (esc "Name")
  let last := el "th" [attr "scope" "col"] .empty
  let headings := [name] ++ c.columns.map ComparisonColumn.heading ++ [last]
  let rows ← c.options.mapM (ComparisonOption.row c.columns)
  return Markup.lines
    [startTag "div" [cls "comparison-table-wrapper"],
     startTag "table" [cls "comparison-table", attr "id" "comparison-table"],
     .indent 2 <| el "thead" [] (el "tr" [] (Markup.concat headings)),
     .indent 2 <| el "tbody" [] (Markup.lines rows),
     endTag "table",
     endTag "div"]

/-- The script that sorts the table. -/
def sorter (c : Comparison) : Markup :=
  script (sortScript (Json.str (c.defaultSort.getD "")).inScript)

/-- The verdict of a comparison. -/
def verdict? (c : Comparison) : Option String := c.verdict.filter fun v => !v.isEmpty

/-- The verdict below a title. -/
def verdictNote (c : Comparison) : Option Markup :=
  c.verdict?.map fun v =>
    el "div" [cls "comparison-verdict"] (el "strong" [] (esc "Our Verdict:") ++ esc (" " ++ v))

end Comparison

/-! ### Reviews -/

/-- The entries of a list, blanks around them removed and blank ones left out. -/
def listEntries (items : List String) : List String :=
  (items.map Text.strip).filter fun s => !s.isEmpty

/-- The entries of a text with commas between them. -/
def commaEntries (s : String) : List String :=
  listEntries ((Text.splitOnChar ',' s.toList).map String.ofList)

/-- The entries that a score lists, as a list or with commas between them. -/
def Score.entries : Score → List String
  | .list items => listEntries items
  | .text s => commaEntries s
  | .number _ => []

/-- A rating within its bounds. What is not a number counts as the best. -/
def clampRating (x : Binary64) : Binary64 :=
  let upper := if x.lt (.ofNat 5) then x else .ofNat 5
  if (Binary64.ofNat 0).lt upper then upper else .ofNat 0

namespace ComparisonOption

/-- The rating of an option, under its own name or as the score over all. -/
def rating? (o : ComparisonOption) : Option Binary64 :=
  ((o.score? "rating").orElse fun _ => o.score? "overall").bind fun
    | .number x => some x
    | .text s => Binary64.ofText? s
    | .list _ => none

/-- The stars of an option. -/
def ratingLine (o : ComparisonOption) : Except PageError Markup :=
  match o.rating? with
  | none => return .empty
  | some rating => do
    let rating := clampRating rating
    return el "span"
      [cls "review-stars", attr "aria-label" (rating.plainText ++ " out of 5 stars")]
      (esc (← starsText rating))

/-- A list of merits or faults. -/
def entryList (o : ComparisonOption) (key heading : String) : Markup :=
  let entries := ((o.score? key).map Score.entries).getD []
  Markup.when (!entries.isEmpty)
    (el "div" [cls ("review-" ++ key)]
      (el "h3" [] (esc heading) ++
        el "ul" [] (Markup.lines (entries.map fun e => el "li" [] (esc e)))))

/-- The card of an option. -/
def card (o : ComparisonOption) : Except PageError Markup := do
  let badge := Markup.whenSome o.badge? fun b => el "span" [cls "review-badge"] (esc b)
  let rating ← o.ratingLine
  let visit := Markup.whenSome o.url? fun url =>
    el "a" (visitLink url "cta-button review-cta") (esc "Learn More")
  return Markup.lines
    [startTag "div" [cls "review-card"],
     .indent 2 <| startTag "div" [cls "review-card-header"],
     .indent 4 <| el "h2" [] (badge ++ esc o.name),
     .indent 4 <| rating,
     .indent 2 <| endTag "div",
     .indent 2 <| startTag "div" [cls "review-card-body"],
     .indent 4 <| o.entryList "pros" "Pros" ++ o.entryList "cons" "Cons",
     .indent 2 <| endTag "div",
     .indent 2 <| startTag "div" [cls "review-card-footer"],
     .indent 4 <| visit,
     .indent 2 <| endTag "div",
     endTag "div"]

end ComparisonOption

end StaticSite
