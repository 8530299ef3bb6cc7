import StaticSite.Content.Article
import StaticSite.Html.Markup
import StaticSite.Json.Printer
import StaticSite.Number.Arithmetic
import StaticSite.Number.Notation
import StaticSite.Page.Error

/-!
# Costs

A `CostSpan` is a range of prices with its average. Spans come from a cost guide, or from the
amounts in the texts of research.

* `averageOf` is the average of a range: the mean of its data, or the middle without data.
* `spanOfText?` is the range of the dollar amounts in a text.
* `costData` are the spans and factors of an article, and `costCards` and `factorGrid` show them.
-/

namespace StaticSite

/-- The average of a range: computed, and then a whole number, or given. -/
inductive Average (α : Type) where
  | computed (n : Int)
  | given (x : α)
deriving Repr

/-- A range of prices. -/
structure CostSpan (α : Type) where
  low : α
  average : Average α
  high : α
  label : Option String := none
deriving Repr

section

open Arithmetic

variable {α : Type} [Arithmetic α]

/-- The mean of data, or the middle of the range without data, as a whole number. -/
def averageOf (points : List α) (low high : α) : Except IntegerError Int :=
  roundHalfUp (if points.isEmpty then div (add low high) (ofNat 2) else mean points)

/-- Whether a character belongs to an amount. -/
def isAmountChar (c : Char) : Bool := c == ',' || Text.isDigit c

/-- The amount after a dollar sign. -/
def amountAfter? (cs : List Char) : Option Nat :=
  let digits := (cs.takeWhile isAmountChar).filter (· != ',')
  if digits.isEmpty then none else some (Text.digitsValue digits)

/-- The dollar amounts in a text. -/
def amounts (text : String) : List Nat :=
  (Text.splitOnChar '$' text.toList).tail.filterMap amountAfter?

/-- The range of numbers in rising order, of which there are at least two. More than two numbers
are data for the average. -/
def spanOf? : List α → Except IntegerError (Option (CostSpan α))
  | low :: second :: rest => do
    let numbers := low :: second :: rest
    let high := rest.getLastD second
    let points := if rest.isEmpty then [] else numbers
    return some { low, average := .computed (← averageOf points low high), high }
  | _ => return none

/-- The range of the dollar amounts in a text, of which there are at least two. -/
def spanOfText? (text : String) : Except IntegerError (Option (CostSpan α)) :=
  spanOf? (((amounts text).map ofNat).mergeSort fun a b => !lt b a)

end

/-- A range of a cost guide, with its average. -/
def CostRange.span (r : CostRange) : Except IntegerError (CostSpan Binary64) := do
  let average ← match r.average with
    | some x => pure (.given x)
    | none => do pure (.computed (← averageOf r.dataPoints r.low r.high))
  return { low := r.low, average, high := r.high, label := r.label }

/-- Whether a value says nothing: it is missing, false, zero or empty. -/
def Json.saysNothing : Json → Bool
  | .null => true
  | .bool b => !b
  | .int i => i == 0
  | .float x => x.isZero
  | .str s => s.isEmpty
  | .arr items => items.isEmpty
  | .obj fields => fields.isEmpty

/-- The factor that a record of research describes, if it has a name. -/
def factorOf? (record : List (String × Json)) : Option CostFactor :=
  let given? (name : String) : Option Json :=
    (record.lookup name).filter fun v => !v.saysNothing
  (given? "name").map fun name =>
    let impact := ((given? "impact").bind Json.asString?).bind fun s => Impact.words.lookup s
    { name := name.display
      impact := impact.getD .medium
      description := ((given? "description").map Json.display).getD "" }

/-- The ranges and factors of an article: those of its cost guide, or those of its research. -/
def costData (a : Article) :
    Except IntegerError (List (CostSpan Binary64) × List CostFactor) := do
  match a.payloads.costGuide, a.payloads.research with
  | some guide, _ => return (← guide.ranges.mapM CostRange.span, guide.factors)
  | none, none => return ([], [])
  | none, some research =>
    let spans ← research.statistics.mapM fun s => spanOfText? s.stat
    return (spans.filterMap id, research.factors.filterMap factorOf?)

/-! ### Cards -/

/-- An amount of whole dollars. -/
def dollars (negative : Bool) (digits : String) : String :=
  (if negative then "-" else "") ++ "$" ++ digits

/-- A price in whole dollars. -/
def Binary64.dollars (x : Binary64) : String :=
  StaticSite.dollars (x.lt (.ofNat 0)) x.abs.roundedText

/-- An average in whole dollars. -/
def Average.dollars : Average Binary64 → String
  | .computed n => StaticSite.dollars (n < 0) (groupedText n.natAbs)
  | .given x => x.dollars

/-- A price with its label. -/
def costFigure (className label amount : String) : Markup :=
  el "div" [cls className]
    (el "span" [cls "cost-label"] (esc label) ++ el "span" [cls "cost-value"] (esc amount))

/-- The card of a range. -/
def costCard (s : CostSpan Binary64) : Markup :=
  let label := s.label.filter fun l => !l.isEmpty
  Markup.lines
    [startTag "div" [cls "cost-range"],
     .indent 2 <| Markup.whenSome label fun l => el "h3" [] (esc l),
     .indent 2 <| startTag "div" [cls "cost-range-bar"],
     .indent 4 <| costFigure "cost-low" "Low" s.low.dollars,
     .indent 4 <| costFigure "cost-avg" "Average" s.average.dollars,
     .indent 4 <| costFigure "cost-high" "High" s.high.dollars,
     .indent 2 <| endTag "div",
     endTag "div"]

/-- The cards of ranges. -/
def costCards (spans : List (CostSpan Binary64)) : Markup :=
  Markup.when (!spans.isEmpty)
    (el "section" [cls "cost-ranges"] (Markup.lines (spans.map costCard)))

/-- The card of a factor. -/
def factorCard (f : CostFactor) : Markup :=
  Markup.lines
    [startTag "div" [cls ("factor-card impact-" ++ f.impact.word)],
     .indent 2 <| el "h4" [] (esc f.name),
     .indent 2 <| el "span" [cls "factor-impact"] (esc (f.impact.word ++ " impact")),
     .indent 2 <| el "p" [] (esc f.description),
     endTag "div"]

/-- The cards of factors. -/
def factorGrid (factors : List CostFactor) : Markup :=
  Markup.when (!factors.isEmpty)
    (el "section" [cls "factors-grid"]
      (el "h2" [] (esc "Cost Factors") ++
        el "div" [cls "factors-cards"] (Markup.lines (factors.map factorCard))))

end StaticSite
