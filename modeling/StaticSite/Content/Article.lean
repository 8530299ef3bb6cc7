import StaticSite.Content.Calculator
import StaticSite.Content.Comparison
import StaticSite.Content.Cost
import StaticSite.Content.Outreach
import StaticSite.Content.Wizard

/-!
# Articles

An article is one content record of a site. Its content type chooses how it is laid out as a page,
and payloads carry what the type needs. A payload that does not fit its type counts as absent, and
an unknown content type or sensitivity level as the plainest one.
-/

namespace StaticSite

open Schema

/-- What kind of page an article becomes. -/
inductive ContentType where
  | article
  | comparison
  | calculator
  | costGuide
  | leadCapture
  | healthDecision
  | checklist
  | faq
  | review
  | wizard
  | configurator
  | quiz
  | survey
  | assessment
  | infographic
  | map
deriving DecidableEq, Repr

/-- The content types with their words. -/
def ContentType.words : List (String × ContentType) :=
  [("article", .article), ("comparison", .comparison), ("calculator", .calculator),
   ("cost_guide", .costGuide), ("lead_capture", .leadCapture),
   ("health_decision", .healthDecision), ("checklist", .checklist), ("faq", .faq),
   ("review", .review), ("wizard", .wizard), ("configurator", .configurator), ("quiz", .quiz),
   ("survey", .survey), ("assessment", .assessment), ("interactive_infographic", .infographic),
   ("interactive_map", .map)]

/-- The word for a content type. -/
def ContentType.word : ContentType → String
  | .article => "article"
  | .comparison => "comparison"
  | .calculator => "calculator"
  | .costGuide => "cost_guide"
  | .leadCapture => "lead_capture"
  | .healthDecision => "health_decision"
  | .checklist => "checklist"
  | .faq => "faq"
  | .review => "review"
  | .wizard => "wizard"
  | .configurator => "configurator"
  | .quiz => "quiz"
  | .survey => "survey"
  | .assessment => "assessment"
  | .infographic => "interactive_infographic"
  | .map => "interactive_map"

/-- How far an article has come. -/
inductive ArticleStatus where
  | generating
  | draft
  | review
  | approved
  | published
  | archived
deriving DecidableEq, Repr

/-- The stages with their words. -/
def ArticleStatus.words : List (String × ArticleStatus) :=
  [("generating", .generating), ("draft", .draft), ("review", .review), ("approved", .approved),
   ("published", .published), ("archived", .archived)]

/-- The word for a stage. -/
def ArticleStatus.word : ArticleStatus → String
  | .generating => "generating"
  | .draft => "draft"
  | .review => "review"
  | .approved => "approved"
  | .published => "published"
  | .archived => "archived"

/-- How much harm wrong advice in an article could do. -/
inductive Sensitivity where
  | none
  | low
  | medium
  | high
deriving DecidableEq, Repr

/-- The levels with their words. -/
def Sensitivity.words : List (String × Sensitivity) :=
  [("none", .none), ("low", .low), ("medium", .medium), ("high", .high)]

/-- The word for a level. -/
def Sensitivity.word : Sensitivity → String
  | .none => "none"
  | .low => "low"
  | .medium => "medium"
  | .high => "high"

/-- The payloads of an article. -/
structure Payloads where
  calculator : Option Calculator
  wizard : Option Wizard
  comparison : Option Comparison
  costGuide : Option CostGuide
  research : Option Research
  geo : Option GeoGuide
  cta : Option CallToAction
  leadForm : Option LeadForm
deriving Repr

/-- The times in the life of an article. -/
structure ArticleTimes where
  lastReviewed : Option Timestamp
  created : Option Timestamp
  updated : Option Timestamp
  published : Option Timestamp
  deleted : Option Timestamp
deriving Repr

/-- An article. -/
structure Article where
  id : String
  domainId : Option String
  slug : String
  title : String
  metaDescription : Option String
  contentMarkdown : String
  contentType : ContentType
  status : ArticleStatus
  sensitivity : Sensitivity
  reviewedBy : Option String
  times : ArticleTimes
  payloads : Payloads
deriving Repr

/-- Whether an article is published and not deleted. -/
def Article.isLive (a : Article) : Bool := a.status == .published && a.times.deleted.isNone

/-- Reads one of a list of words; anything else counts as the default. -/
def lenientOneOf {α : Type} (words : List (String × α)) (default : α) : Reader α
  | .str s => .ok ((words.lookup s).getD default)
  | _ => .ok default

/-- Reads a payload; one that does not fit counts as absent. -/
def payload {α : Type} (fs : Fields) (name : String) (r : Reader α) : Option α :=
  match fs.lookup name with
  | some v => (r v).toOption
  | none => none

/-- Reads the payloads of an article. -/
def Payloads.ofFields (fs : Fields) : Payloads where
  calculator := payload fs "calculator_config" Calculator.read
  wizard := payload fs "wizard_config" Wizard.read
  comparison := payload fs "comparison_data" Comparison.read
  costGuide := payload fs "cost_guide_data" CostGuide.read
  research := payload fs "research_data" Research.read
  geo := payload fs "geo_data" GeoGuide.read
  cta := payload fs "cta_config" CallToAction.read
  leadForm := payload fs "lead_gen_config" LeadForm.read

/-- Reads the times of an article. -/
def ArticleTimes.ofFields (fs : Fields) : Checked ArticleTimes :=
  .mk <$> optionalField fs "last_reviewed_at" readTimestamp
    <*> optionalField fs "created_at" readTimestamp
    <*> optionalField fs "updated_at" readTimestamp
    <*> optionalField fs "published_at" readTimestamp
    <*> optionalField fs "deleted_at" readTimestamp

/-- Reads an article. -/
def Article.read : Reader Article := record fun fs =>
  .mk <$> requiredField fs "id" readText <*> optionalField fs "domain_id" readText
    <*> requiredField fs "slug" readText
    <*> requiredField fs "title" readText <*> optionalField fs "meta_description" readText
    <*> defaultField fs "content_markdown" "" readText
    <*> defaultField fs "content_type" .article (lenientOneOf ContentType.words .article)
    <*> defaultField fs "status" .draft (oneOf ArticleStatus.words)
    <*> defaultField fs "ymyl_level" .none (lenientOneOf Sensitivity.words .none)
    <*> optionalField fs "reviewed_by" readText
    <*> ArticleTimes.ofFields fs <*> .ok (Payloads.ofFields fs)

end StaticSite
