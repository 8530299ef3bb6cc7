import StaticSite.Page.Article
import StaticSite.Widget.Calculator
import StaticSite.Widget.Checklist
import StaticSite.Widget.Comparison
import StaticSite.Widget.Costs
import StaticSite.Widget.Infographic
import StaticSite.Widget.Regions
import StaticSite.Widget.Wizard

/-!
# What each type of article contributes

`ArticleParts.ofArticle` is what the type of an article contributes to its page, and
`articlePage` is the page. An article whose payload is missing is shown by its text.
-/

namespace StaticSite

/-- A call to action. -/
def CallToAction.markup (c : CallToAction) : Markup :=
  Markup.lines
    [startTag "aside" [cls ("cta cta-" ++ c.style.word)],
     .indent 2 <| el "p" [] (esc c.text),
     .indent 2 <| el "a"
      [attr "href" c.buttonUrl, cls "cta-button", attr "rel" "nofollow noopener sponsored"]
      (esc c.buttonLabel),
     endTag "aside"]

/-- The notice above advice on health. -/
def medicalNotice : Markup :=
  let text := "This content is for informational purposes only and is not a substitute for " ++
    "professional medical advice, diagnosis, or treatment. Always consult a qualified " ++
    "healthcare provider about your specific situation."
  el "div" [cls "medical-disclaimer", attr "role" "note"]
    (el "strong" [] (esc "Medical Disclaimer:") ++ esc (" " ++ text))

/-- What a wizard without steps shows. -/
def missingWizard : Markup := el "p" [] (esc "Wizard configuration is not yet available.")

/-- The greatest length of an answer in linked data. -/
def maxAnswerLength : Nat := 500

namespace ArticleParts

variable (a : Article) (ctx : ArticleContext)

/-- The text of an article. -/
def text : Except PageError Markup := ctx.prose a.contentMarkdown

/-- What an article contributes that is shown by its text alone, below a notice. -/
def plain (notice : Markup) : Except PageError ArticleParts := do
  let text ← text a ctx
  let regions := Markup.whenSome a.payloads.geo GeoGuide.texts
  let cta := Markup.whenSome a.payloads.cta CallToAction.markup
  return { contents := Markup.stack [notice, text, regions, cta] }

/-- What a calculator contributes. -/
def calculator : Except PageError ArticleParts := do
  let form := Markup.whenSome a.payloads.calculator fun c => c.form ""
  let code := Markup.whenSome a.payloads.calculator fun c =>
    Markup.when (!c.inputs.isEmpty) (c.code "" false ctx.domain)
  return { contents := Markup.lines [form, ← text a ctx]
           subject := .application
           extra := [("applicationCategory", .str "FinanceApplication")]
           code }

/-- An option of a comparison in linked data. -/
def listedOption (index : Nat) (o : ComparisonOption) : Json :=
  .obj ([("@type", .str "ListItem"), ("position", .int (index + 1)), ("name", .str o.name)] ++
    (o.url?.map fun url => ("url", Json.str url)).toList)

/-- What a comparison contributes. -/
def comparison : Except PageError ArticleParts := do
  let options := (a.payloads.comparison.map (·.options)).getD []
  let elements := options.mapIdx listedOption
  let shown := a.payloads.comparison.filter fun c => !c.options.isEmpty
  let table ← shown.mapM Comparison.table
  let verdict := a.payloads.comparison.bind Comparison.verdictNote
  return { contents := Markup.lines (verdict.toList ++ table.toList ++ [← text a ctx])
           subject := .list
           extra := [("itemListElement", .arr elements), ("numberOfItems", .int elements.length)]
           code := Markup.whenSome shown Comparison.sorter }

/-- The verdict of a review. -/
def reviewVerdict (verdict : String) : Markup :=
  Markup.lines
    [startTag "div" [cls "review-verdict"],
     .indent 2 <| el "strong" [] (esc "Verdict:") ++ esc (" " ++ verdict),
     endTag "div"]

/-- What a review contributes. -/
def review : Except PageError ArticleParts := do
  let options := (a.payloads.comparison.map (·.options)).getD []
  let cards ← options.mapM ComparisonOption.card
  let section_ := el "section" [cls "review-cards"] (Markup.lines cards)
  let verdict := (a.payloads.comparison.bind Comparison.verdict?).map reviewVerdict
  let parts := (if cards.isEmpty then [] else [section_]) ++ verdict.toList ++ [← text a ctx]
  return { contents := Markup.lines parts }

/-- What a cost guide contributes. -/
def costGuide : Except PageError ArticleParts := do
  let (spans, factors) ← PageError.ofInteger (costData a)
  return { contents := Markup.lines [costCards spans, factorGrid factors, ← text a ctx] }

/-- What a contact form contributes. -/
def leadCapture : Except PageError ArticleParts := do
  let lead := a.payloads.leadForm.map LeadForm.secured
  let disclosure := (lead.bind (·.disclosureAboveFold)).filter fun d => !d.isEmpty
  return { contents := Markup.lines [Markup.whenSome lead LeadForm.form, ← text a ctx]
           notice := Markup.whenSome disclosure fun d =>
             el "div" [cls "disclosure-above"] (esc d)
           code := Markup.whenSome lead LeadForm.code }

/-- The text of a section, unless it is empty. -/
def sectionText (s : Section) : Except PageError Markup :=
  if s.body.isEmpty then return .empty else ctx.prose s.body

/-- What a checklist contributes. -/
def checklist : Except PageError ArticleParts := do
  let steps := sections a.contentMarkdown
  if steps.isEmpty then return { contents := ← text a ctx }
  else
    let texts ← steps.mapM (sectionText ctx)
    let items := (steps.zip texts).mapIdx fun i (s, text) => checklistItem i s.heading text
    return { contents := StaticSite.checklist items, code := script checklistScript }

/-- What a list of questions contributes. -/
def questions : Except PageError ArticleParts := do
  let items := sections a.contentMarkdown
  let data := items.map fun s =>
    questionData s.heading (shorten maxAnswerLength (Text.replaceAll s.body "\n" " "))
  let answers ← items.mapM fun s => do
    return question [] s.heading (← ctx.prose s.body)
  let contents ←
    if items.isEmpty then text a ctx
    else pure (el "div" [cls "faq-list"] (Markup.lines answers))
  return { contents, subject := .questions, extra := [("mainEntity", .arr data)] }

/-- What a wizard contributes. -/
def wizard (mode : Wizard.Mode) : Except PageError ArticleParts :=
  match a.payloads.wizard.filter fun w => !w.steps.isEmpty with
  | none => return { contents := missingWizard, subject := .application }
  | some w => do
    return { contents := Markup.lines [w.panels mode w.leadEndpoint?, ← text a ctx]
             subject := .application
             code := Wizard.code w mode false "" }

/-- An item of an infographic in linked data. -/
def listedItem (index : Nat) (i : InfographicItem) : Json :=
  .obj [("@type", .str "ListItem"), ("position", .int (index + 1)), ("name", .str i.title)]

/-- What an infographic contributes. -/
def infographic : Except PageError ArticleParts := do
  let items := infographicItems a
  if items.isEmpty then return { contents := ← text a ctx, subject := .list }
  else
    return { contents := StaticSite.infographic items
             subject := .list
             extra := [("numberOfItems", .int items.length),
               ("itemListElement", .arr (items.mapIdx listedItem))]
             code := script infographicScript }

/-- What a map contributes. -/
def map : Except PageError ArticleParts := do
  let map := a.payloads.geo.bind fun g => RegionMap.ofEntries? g.mapEntries g.fallback
  match map with
  | none => return { contents := ← text a ctx }
  | some m =>
    return { contents := Markup.lines [m.markup, ← text a ctx]
             extra := [("about", .arr (m.entries.map fun e => .str e.label))] }

/-- What the type of an article contributes. -/
def ofArticle : Except PageError ArticleParts :=
  match a.contentType with
  | .article => plain a ctx .empty
  | .healthDecision => plain a ctx medicalNotice
  | .comparison => comparison a ctx
  | .calculator => calculator a ctx
  | .costGuide => costGuide a ctx
  | .leadCapture => leadCapture a ctx
  | .checklist => checklist a ctx
  | .faq => questions a ctx
  | .review => review a ctx
  | .wizard => wizard a ctx .wizard
  | .configurator => wizard a ctx .configurator
  | .quiz => wizard a ctx .quiz
  | .survey => wizard a ctx .survey
  | .assessment => wizard a ctx .assessment
  | .infographic => infographic a ctx
  | .map => map a ctx

end ArticleParts

/-- The page of an article. -/
def articlePage (a : Article) (ctx : ArticleContext) : Except PageError Markup := do
  (← ArticleParts.ofArticle a ctx).page a ctx

end StaticSite
