import StaticSite.Content.Article
import StaticSite.Html.Script
import StaticSite.Number.Arithmetic
import StaticSite.Number.Notation
import StaticSite.Text.Case
import StaticSite.Widget.Scripts

/-!
# Infographics

An infographic shows a card for each option of a comparison, measured by the mean of its scores, or
for each range of a cost guide, measured by how high the average lies.

* `infographicItems` are the items of an article; no two have the same identifier, and every
  measure lies between zero and a hundred.
* `infographic` shows items, and can be filtered by group and sorted by measure.
-/

namespace StaticSite

/-- An item of an infographic. -/
structure InfographicItem where
  id : String
  title : String
  metricLabel : String
  metricValue : Nat
  summary : String
  group : String
deriving DecidableEq, Repr

namespace InfographicItem

/-- A number rounded to a percentage. What is not finite counts as zero. -/
def percentage (x : Binary64) : Nat :=
  if x.isFinite then
    match Arithmetic.roundHalfUp x with
    | .ok n => (max 0 (min 100 n)).toNat
    | .error _ => 0
  else 0

/-- Whether a character may stand in an identifier. -/
def isIdChar (c : Char) : Bool := ('a' ≤ c && c ≤ 'z') || ('0' ≤ c && c ≤ '9')

/-- Each run of other characters as a hyphen; `within` says whether a run is in progress. -/
def hyphenate : Bool → List Char → List Char
  | _, [] => []
  | within, c :: cs =>
    if isIdChar c then c :: hyphenate false cs
    else (if within then [] else ['-']) ++ hyphenate true cs

/-- The identifier that a name suggests. -/
def idBase (name : String) : String := String.ofList (hyphenate false (Text.lowerList name.toList))

/-- The identifiers that a base may become: itself, and itself with a number. -/
def candidate (base : String) : Nat → String
  | 0 => base
  | n + 1 => base ++ "-" ++ toString (n + 1)

/-- The first identifier of a base that has not been seen. One of the first `seen.length + 1`
candidates is new, since they differ from each other. -/
def unseen (base : String) (seen : List String) : String :=
  (((List.range (seen.length + 1)).map (candidate base)).find? fun c => !seen.contains c).getD base

/-- Gives each item the first identifier of its base that no item before it has. -/
def withDistinctIds (seen : List String) : List InfographicItem → List InfographicItem
  | [] => []
  | item :: items =>
    let id := unseen item.id seen
    { item with id } :: withDistinctIds (id :: seen) items

/-- The mean of the numbers among the scores of an option, a score of five counting as a
hundred. -/
def composite (columns : List ComparisonColumn) (o : ComparisonOption) : Nat :=
  let number? (c : ComparisonColumn) : Option Binary64 :=
    (o.scores.lookup c.key).bind fun
      | .number x => if x.isFinite then some x else none
      | _ => none
  let numbers := columns.filterMap number?
  if numbers.isEmpty then 0 else percentage (Arithmetic.mean numbers * .ofNat 20)

/-- The item of an option. -/
def ofOption (c : Comparison) (o : ComparisonOption) : InfographicItem :=
  let present (s : Option String) : Option String := s.filter fun s => !s.isEmpty
  let base := idBase o.name
  { id := if base.isEmpty then "option" else base
    title := o.name
    metricLabel := "Composite Score"
    metricValue := composite c.columns o
    summary := ((present o.badge).orElse fun _ => present c.verdict).getD "Comparison data point"
    group := (present o.badge).getD "General" }

/-- How high the average of a range lies, in percent of its high end. -/
def position (r : CostRange) : Nat :=
  if (Binary64.ofNat 0).lt r.high then
    let average := r.average.getD ((r.low + r.high) / .ofNat 2)
    percentage (average / r.high * .ofNat 100)
  else 0

/-- The item of a range. -/
def ofRange (r : CostRange) : InfographicItem :=
  let label := r.label.filter fun l => !l.isEmpty
  { id := idBase (label.getD "range")
    title := label.getD "Cost Range"
    metricLabel := "Relative Cost Position"
    metricValue := position r
    summary := "$" ++ r.low.roundedText ++ " - $" ++ r.high.roundedText
    group := "Cost" }

end InfographicItem

open InfographicItem in
/-- The items of an article: the options of its comparison, or else the ranges of its cost
guide. -/
def infographicItems (a : Article) : List InfographicItem :=
  let ofComparison := match a.payloads.comparison with
    | some c => if c.columns.isEmpty then [] else c.options.map (ofOption c)
    | none => []
  let ofGuide := ((a.payloads.costGuide.map (·.ranges)).getD []).map ofRange
  withDistinctIds [] (if ofComparison.isEmpty then ofGuide else ofComparison)

/-- The button that shows a group. -/
def filterChip (className group label : String) : Markup :=
  el "button" [attr "type" "button", cls className, attr "data-infographic-filter" group]
    (esc label)

/-- The buttons that show all items, or one group. -/
def filterChips (items : List InfographicItem) : Markup :=
  let groups := ((items.map (·.group)).filter fun g => !g.isEmpty).eraseDups
  Markup.lines
    (filterChip "infographic-chip active" "all" "All" ::
      groups.map fun g => filterChip "infographic-chip" g g)

/-- The card of an item. -/
def InfographicItem.card (i : InfographicItem) : Markup :=
  let metric := toString i.metricValue
  let bar := el "span" [attr "style" ("width:" ++ metric ++ "%")] .empty
  Markup.lines
    [startTag "div"
      [cls "infographic-card", attr "id" ("ig-" ++ i.id), attr "data-group" i.group,
       attr "data-metric" metric],
     .indent 2 <| el "h3" [] (esc i.title),
     .indent 2 <| el "p" [cls "infographic-summary"] (esc i.summary),
     .indent 2 <| startTag "div" [cls "infographic-meter"],
     .indent 4 <| el "span" [cls "infographic-meter-label"] (esc i.metricLabel),
     .indent 4 <| el "strong" [] (esc metric),
     .indent 2 <| endTag "div",
     .indent 2 <| el "div" [cls "infographic-bar"] bar,
     endTag "div"]

/-- An infographic with given items. -/
def infographic (items : List InfographicItem) : Markup :=
  Markup.lines
    [startTag "section" [cls "infographic-shell"],
     .indent 2 <| startTag "div" [cls "infographic-toolbar"],
     .indent 4 <| el "div" [cls "infographic-chips"] (filterChips items),
     .indent 4 <| startTag "label" [attr "for" "infographic-sort"] ++ esc "Sort",
     .indent 6 <| startTag "select" [attr "id" "infographic-sort"],
     .indent 8 <| el "option" [attr "value" "desc"] (esc "Highest score first"),
     .indent 8 <| el "option" [attr "value" "asc"] (esc "Lowest score first"),
     .indent 6 <| endTag "select",
     .indent 4 <| endTag "label",
     .indent 2 <| endTag "div",
     .indent 2 <| el "div" [cls "infographic-grid"] (Markup.lines (items.map (·.card))),
     endTag "section"]

end StaticSite
