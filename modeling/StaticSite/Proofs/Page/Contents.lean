import StaticSite.Page.Contents

/-!
# What the parts of an article's page are read from

An article has many fields, and its page is made of few of them. `ArticleParts.ofArticle` reads the
type of the article, its text, and its payloads; it reads neither the title nor the description, and
it reads the payload of a form or a wizard only for the types that show one.

`ArticleParts.ofArticle_congr` says so: articles with the same contents (`Article.SameContents`),
whose form and wizard contribute the same, contribute the same.
-/

namespace StaticSite

/-- **Two articles have the same contents**, perhaps but for a form and a wizard: their type, their
text, and the other payloads are the same. -/
structure Article.SameContents (a b : Article) : Prop where
  contentType : a.contentType = b.contentType
  contentMarkdown : a.contentMarkdown = b.contentMarkdown
  calculator : a.payloads.calculator = b.payloads.calculator
  comparison : a.payloads.comparison = b.payloads.comparison
  costGuide : a.payloads.costGuide = b.payloads.costGuide
  research : a.payloads.research = b.payloads.research
  geo : a.payloads.geo = b.payloads.geo
  cta : a.payloads.cta = b.payloads.cta

namespace ArticleParts

variable {a b : Article} {ctx : ArticleContext}

theorem text_congr (h : a.contentMarkdown = b.contentMarkdown) : text a ctx = text b ctx := by
  unfold text
  rw [h]

theorem plain_congr (h : a.SameContents b) (notice : Markup) :
    plain a ctx notice = plain b ctx notice := by
  unfold plain
  rw [text_congr h.contentMarkdown, h.geo, h.cta]

/-- A form contributes by its payload and the text below it. -/
theorem leadCapture_congr (htext : a.contentMarkdown = b.contentMarkdown)
    (hform : a.payloads.leadForm.map LeadForm.secured = b.payloads.leadForm.map LeadForm.secured) :
    leadCapture a ctx = leadCapture b ctx := by
  unfold leadCapture
  rw [text_congr htext, hform]

/-- A wizard contributes by its payload and the text below it. -/
theorem wizard_congr (htext : a.contentMarkdown = b.contentMarkdown)
    (hwizard : a.payloads.wizard = b.payloads.wizard) (mode : Wizard.Mode) :
    wizard a ctx mode = wizard b ctx mode := by
  unfold wizard
  rw [text_congr htext, hwizard]

/-- **Articles with the same contents contribute the same**, if their forms and their wizards do. -/
theorem ofArticle_congr (h : a.SameContents b) (hform : leadCapture a ctx = leadCapture b ctx)
    (hwizard : ∀ mode, wizard a ctx mode = wizard b ctx mode) :
    ofArticle a ctx = ofArticle b ctx := by
  have htext : text a ctx = text b ctx := text_congr h.contentMarkdown
  -- Every type reads the text, and a payload or two that its page shows.
  unfold ofArticle
  rw [h.contentType]
  cases b.contentType
  case article => exact plain_congr h .empty
  case healthDecision => exact plain_congr h medicalNotice
  case comparison =>
    show comparison a ctx = comparison b ctx
    unfold comparison
    rw [htext, h.comparison]
  case calculator =>
    show calculator a ctx = calculator b ctx
    unfold calculator
    rw [htext, h.calculator]
  case costGuide =>
    show costGuide a ctx = costGuide b ctx
    have hcosts : costData a = costData b := by
      unfold costData
      rw [h.costGuide, h.research]
    unfold costGuide
    rw [htext, hcosts]
  case leadCapture => exact hform
  case checklist =>
    show checklist a ctx = checklist b ctx
    unfold checklist
    rw [htext, h.contentMarkdown]
  case faq =>
    show questions a ctx = questions b ctx
    unfold questions
    rw [htext, h.contentMarkdown]
  case review =>
    show review a ctx = review b ctx
    unfold review
    rw [htext, h.comparison]
  case wizard => exact hwizard .wizard
  case configurator => exact hwizard .configurator
  case quiz => exact hwizard .quiz
  case survey => exact hwizard .survey
  case assessment => exact hwizard .assessment
  case infographic =>
    show infographic a ctx = infographic b ctx
    have hitems : infographicItems a = infographicItems b := by
      unfold infographicItems
      rw [h.comparison, h.costGuide]
    unfold infographic
    rw [htext, hitems]
  case map =>
    show map a ctx = map b ctx
    unfold map
    rw [htext, h.geo]

end ArticleParts

end StaticSite
