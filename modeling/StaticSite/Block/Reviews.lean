import StaticSite.Block.Context
import StaticSite.Block.Frame
import StaticSite.Json.Printer
import StaticSite.Text.Blank
import StaticSite.Text.Case
import StaticSite.Widget.Comparison

/-!
# Reviews and prices

Blocks that show what products are worth: cards of merits and faults, rankings, two products side
by side, what customers say, and plans with their prices.
-/

namespace StaticSite.Block

/-- The stars of a rating. -/
def starsOf (rating : Numeral) : Except BlockError String := do
  return stars (← BlockError.ofInteger rating.truncate?)

/-- A line with the stars of a rating and its number, if there is a rating. -/
def ratingIn (className : String) (rating : Option Numeral) : BlockResult :=
  match rating with
  | none => return .empty
  | some r => do
    let text ← BlockError.ofNumber r.plainText?
    return el "div" [cls className] (esc ((← starsOf r) ++ " " ++ text ++ "/5"))

/-- The link to a product, if there is one. -/
def productLink (className label : String) (product : Fields) : Markup :=
  Markup.whenSome (product.text? "url") fun url =>
    el "a" (visitLink url ("cta-button " ++ className)) (esc label)

/-- Whether an item of a list can be shown as an entry. -/
def isEntry : Json → Bool
  | .str _ | .int _ | .float _ | .bool _ => true
  | _ => false

/-- The texts of a list. -/
def entryTexts (fs : Fields) (name : String) : List String :=
  ((fs.items name).filter isEntry).map Json.display

/-- A list of merits or faults; one without entries is left out. -/
def meritList (start key heading kind icon : String) (fs : Fields) : Markup :=
  let entry (text : String) : Markup :=
    el "li" [] (el "span" [cls (kind ++ "-icon")] (esc icon) ++ esc (" " ++ text))
  let entries := entryTexts fs key
  Markup.when (!entries.isEmpty)
    (el "div" [cls (start ++ key)]
      (el "h4" [cls (key ++ "-heading")] (esc (icon ++ " " ++ heading)) ++
        el "ul" [] (Markup.concat (entries.map entry))))

/-- The merits and the faults of a product. -/
def merits (start : String) (fs : Fields) : Markup :=
  meritList start "pros" "Pros" "pro" "✓" fs ++ meritList start "cons" "Cons" "con" "✗" fs

/-- The card of a product. -/
def prosConsCard (b : Block) : BlockResult := do
  match b.content.text? "name" with
  | none => return .empty
  | some name =>
    let rating ← ratingIn "review-rating" (b.content.number? "rating")
    return Markup.lines
      [startTag "div" [cls "review-card"],
       .indent 2 <| startTag "div" [cls "review-card-header"],
       .indent 4 <| el "h3" [] (esc name),
       .indent 4 <| textIn "span" "review-badge" (b.content.text? "badge"),
       .indent 2 <| endTag "div",
       .indent 2 <| rating,
       .indent 2 <| textIn "p" "review-summary" (b.content.text? "summary"),
       .indent 2 <| el "div" [cls "pros-cons"] (merits "" b.content),
       .indent 2 <| productLink "review-cta" "Visit Site" b.content,
       endTag "div"]

/-! ### Rankings -/

/-- The class of the first three ranks. -/
def medal (rank : Int) : String :=
  if rank = 1 then " ranking-gold"
  else if rank = 2 then " ranking-silver"
  else if rank = 3 then " ranking-bronze"
  else ""

/-- The bar of a score. -/
def scoreBar (score : Option Numeral) : BlockResult :=
  match score with
  | none => return .empty
  | some s => do
    let width ← BlockError.ofNumber (s.bounded 0 100).plainText?
    return el "div" [cls "ranking-score-bar"]
      (el "div" [cls "ranking-score-fill", attr "style" ("width:" ++ width ++ "%")] .empty)

/-- The rank of an entry: its own, unless it is zero, or its position. -/
def rankOf (position : Nat) (e : Fields) : Except BlockError Int :=
  match (e.number? "rank").filter fun n => !n.isZero with
  | some n => BlockError.ofInteger n.truncate?
  | none => return position

/-- An entry of a ranking. -/
def rankingItem (position : Nat) (e : Fields) : BlockResult := do
  let rank ← rankOf position e
  let rating ← ratingIn "ranking-rating" (e.number? "rating")
  let score ← scoreBar (e.number? "score")
  return Markup.lines
    [startTag "li" [cls ("ranking-item" ++ medal rank)],
     .indent 2 <| el "span" [cls "ranking-number"] (esc (toString rank)),
     .indent 2 <| startTag "div" [cls "ranking-content"],
     .indent 4 <| startTag "div" [cls "ranking-header"],
     .indent 6 <| el "h3" [] (esc (e.text "name")),
     .indent 6 <| textIn "span" "ranking-badge" (e.text? "badge"),
     .indent 4 <| endTag "div",
     .indent 4 <| rating,
     .indent 4 <| score,
     .indent 4 <| el "p" [] (esc (e.text "description")),
     .indent 4 <| productLink "ranking-cta" "Visit" e,
     .indent 2 <| endTag "div",
     endTag "li"]

/-- A ranking. -/
def rankingList (b : Block) : BlockResult := do
  let entries := b.content.recordsWith "items" "name"
  let rows ← (entries.mapIdx fun i e => (i + 1, e)).mapM fun (position, e) =>
    rankingItem position e
  return Markup.when (!entries.isEmpty)
    (Markup.lines
      [startTag "section" [cls "ranking-section"],
       .indent 2 <| sectionHeading (b.content.text? "title"),
       .indent 2 <| el "ol" [cls "ranking-list"] (Markup.lines rows),
       endTag "section"])

/-! ### Two products -/

/-- One of two products. -/
def versusSide (product : Fields) (wins : Bool) : BlockResult := do
  let rating ← ratingIn "vs-rating" (product.number? "rating")
  return Markup.lines
    [startTag "div" [cls (if wins then "vs-side vs-side--winner" else "vs-side")],
     .indent 2 <| startTag "div" [cls "vs-side-header"],
     .indent 4 <| el "h3" [] (esc (product.text "name")),
     .indent 4 <| Markup.when wins (el "span" [cls "vs-winner-badge"] (esc "Winner")),
     .indent 2 <| endTag "div",
     .indent 2 <| rating,
     .indent 2 <| el "p" [] (esc (product.text "description")),
     .indent 2 <| merits "vs-" product,
     .indent 2 <| productLink "vs-cta" "Visit" product,
     endTag "div"]

/-- Two products side by side. The one with the higher rating wins. -/
def versusCard (b : Block) : BlockResult := do
  let first := b.content.object "itemA"
  let second := b.content.object "itemB"
  if first.isEmpty || second.isEmpty then return .empty
  else
    let rating (product : Fields) : Numeral := (product.number? "rating").getD .zero
    let left ← versusSide first ((rating second).lt (rating first))
    let right ← versusSide second ((rating first).lt (rating second))
    let verdict := Markup.whenSome (b.content.text? "verdict") fun v =>
      el "div" [cls "comparison-verdict"] (el "strong" [] (esc "Verdict:") ++ esc (" " ++ v))
    return Markup.lines
      [startTag "section" [cls "vs-card"],
       .indent 2 <| startTag "div" [cls "vs-grid"],
       .indent 4 <| left,
       .indent 4 <| el "div" [cls "vs-divider"] (el "span" [] (esc "VS")),
       .indent 4 <| right,
       .indent 2 <| endTag "div",
       .indent 2 <| verdict,
       endTag "section"]

/-! ### Testimonials -/

/-- The first letters of the first two words of a name. -/
def initials (name : String) : String :=
  String.join (((Text.words name).take 2).map fun w => Text.upper (Text.take 1 w))

/-- What a customer says. -/
def testimonial (e : Fields) : BlockResult := do
  let rating ← match e.number? "rating" with
    | none => pure .empty
    | some r => pure (el "div" [cls "testimonial-rating"] (esc (← starsOf r)))
  let author := (e.text? "author").getD "Anonymous"
  let verified := Markup.when (e.flag "verified" false)
    (el "span" [cls "testimonial-verified", attr "title" "Verified"] (esc "✓"))
  return Markup.lines
    [startTag "div" [cls "testimonial-card"],
     .indent 2 <| rating,
     .indent 2 <| el "blockquote" [cls "testimonial-quote"]
      (el "span" [cls "testimonial-mark"] (html "\"") ++ esc (e.text "quote")),
     .indent 2 <| startTag "div" [cls "testimonial-author"],
     .indent 4 <| el "span" [cls "testimonial-avatar"] (esc (initials author)),
     .indent 4 <| startTag "div" [cls "testimonial-info"],
     .indent 6 <| el "cite" [] (esc (author ++ " ") ++ verified),
     .indent 6 <| textIn "span" "testimonial-title" (e.text? "title"),
     .indent 4 <| endTag "div",
     .indent 2 <| endTag "div",
     endTag "div"]

/-- What customers say. -/
def testimonialGrid (b : Block) : BlockResult := do
  let entries := b.content.recordsWith "testimonials" "quote"
  let cards ← entries.mapM testimonial
  return Markup.when (!entries.isEmpty)
    (Markup.lines
      [startTag "section" [cls "testimonial-section"],
       .indent 2 <| sectionHeading (b.content.text? "heading"),
       .indent 2 <| el "div" [cls "testimonial-grid"] (Markup.lines cards),
       endTag "section"])

/-!
## Prices

A table of plans with their prices and features.
-/

/-- A feature of a plan. A cross in front of it tells that the plan lacks it. -/
def planFeature (text : String) : Markup :=
  let lacking := Text.startsWith text "✗ " || Text.startsWith text "x "
  el "li" [cls (if lacking then "pricing-feature--excluded" else "")]
    (el "span" [cls "pricing-check"] (esc (if lacking then "✗" else "✓")) ++
      esc (" " ++ if lacking then Text.drop 2 text else text))

/-- The card of a plan. -/
def planCard (plan : Fields) : Markup :=
  let highlight := if plan.flag "highlighted" false then " pricing-highlighted" else ""
  let period := Markup.whenSome (plan.text? "period") fun p =>
    el "span" [cls "pricing-period"] (esc ("/" ++ p))
  let features := (entryTexts plan "features").map planFeature
  Markup.lines
    [startTag "div" [cls ("pricing-card" ++ highlight)],
     .indent 2 <| textIn "span" "pricing-badge" (plan.text? "badge"),
     .indent 2 <| el "h3" [] (esc (plan.text "name")),
     .indent 2 <| el "div" [cls "pricing-price"] (esc (plan.text "price") ++ period),
     .indent 2 <| textIn "p" "pricing-desc" (plan.text? "description"),
     .indent 2 <| el "ul" [cls "pricing-features"] (Markup.concat features),
     .indent 2 <| givenLink plan "cta-button pricing-cta",
     endTag "div"]

/-- Plans with their prices. -/
def pricingTable (b : Block) : Markup :=
  let plans := b.content.recordsWith "plans" "name"
  Markup.when (!plans.isEmpty)
    (Markup.lines
      [startTag "section" [cls "pricing-section"],
       .indent 2 <| sectionHeading (b.content.text? "heading"),
       .indent 2 <| textIn "p" "section-subheading" (b.content.text? "subheading"),
       .indent 2 <| el "div" [cls "pricing-grid"] (Markup.lines (plans.map planCard)),
       endTag "section"])

end StaticSite.Block
