import StaticSite.Schema.Reader

/-!
# Wizards

A wizard leads through steps of questions to results. Conditions on the answers choose the next
step and the results that are shown; scoring turns the answers into a number from 0 to 100, to
which a band and an outcome belong.
-/

namespace StaticSite

open Schema

/-- A choice of a question. -/
structure WizardChoice where
  value : String
  label : String
deriving Repr

/-- How a question is answered. -/
inductive FieldKind where
  | radio
  | checkbox
  | select
  | number
  | text
deriving DecidableEq, Repr

/-- The word for a kind of question. -/
def FieldKind.word : FieldKind → String
  | .radio => "radio"
  | .checkbox => "checkbox"
  | .select => "select"
  | .number => "number"
  | .text => "text"

/-- A question. -/
structure WizardField where
  id : String
  kind : FieldKind
  label : String
  choices : List WizardChoice
  required : Bool
deriving Repr

/-- A condition under which a step is followed by a given one. -/
structure WizardBranch where
  condition : String
  goTo : String
deriving Repr

/-- A step of questions. -/
structure WizardStep where
  id : String
  title : String
  description : Option String
  fields : List WizardField
  nextStep : Option String
  branches : List WizardBranch
deriving Repr

/-- A text that leads to an address. -/
structure CtaLink where
  text : String
  url : String
deriving Repr

/-- A result that is shown under a condition. -/
structure ResultRule where
  condition : String
  title : String
  body : String
  cta : Option CtaLink
deriving Repr

/-- What a visitor is asked for before the results are sent. -/
structure WizardLead where
  fields : List String
  consentText : String
  endpoint : String
deriving Repr

/-- A band of scores. -/
structure ScoreBand where
  min : Binary64
  max : Binary64
  label : String
  description : Option String
deriving Repr

/-- The outcome for a band of scores. -/
structure ScoreOutcome where
  min : Binary64
  max : Binary64
  title : String
  body : String
  cta : Option CtaLink
deriving Repr

/-- How answers are scored. -/
inductive ScoringMethod where
  | completion
  | weighted
deriving DecidableEq, Repr

/-- The word for a scoring method. -/
def ScoringMethod.word : ScoringMethod → String
  | .completion => "completion"
  | .weighted => "weighted"

/-- The weights of fields and the numbers that their choices count for. -/
structure ScoreTable (α : Type) where
  method : Option ScoringMethod
  weights : List (String × α)
  valueMap : List (String × List (String × α))
deriving Repr

/-- The scoring of a wizard. -/
structure Scoring where
  table : ScoreTable Binary64
  bands : List ScoreBand
  outcomes : List ScoreOutcome
deriving Repr

/-- What the results of a wizard put first. -/
inductive ResultTemplate where
  | summary
  | recommendation
  | score
  | eligibility
deriving DecidableEq, Repr

/-- The word for a result template. -/
def ResultTemplate.word : ResultTemplate → String
  | .summary => "summary"
  | .recommendation => "recommendation"
  | .score => "score"
  | .eligibility => "eligibility"

/-- A wizard. -/
structure Wizard where
  steps : List WizardStep
  resultRules : List ResultRule
  resultTemplate : ResultTemplate
  collectLead : Option WizardLead
  scoring : Option Scoring
deriving Repr

/-- Reads a choice. -/
def WizardChoice.read : Reader WizardChoice := record fun fs =>
  .mk <$> requiredField fs "value" readText <*> requiredField fs "label" readText

/-- Reads a question. -/
def WizardField.read : Reader WizardField := record fun fs =>
  .mk <$> requiredField fs "id" readText
    <*> defaultField fs "type" .radio
      (oneOf [("radio", .radio), ("checkbox", .checkbox), ("select", .select),
        ("number", .number), ("text", .text)])
    <*> requiredField fs "label" readText <*> listField fs "options" WizardChoice.read
    <*> defaultField fs "required" false readFlag

/-- Reads a branch. -/
def WizardBranch.read : Reader WizardBranch := record fun fs =>
  .mk <$> requiredField fs "condition" readText
    <*> requiredField fs (either "goTo" "go_to") readText

/-- Reads a step. -/
def WizardStep.read : Reader WizardStep := record fun fs =>
  .mk <$> requiredField fs "id" readText <*> requiredField fs "title" readText
    <*> optionalField fs "description" readText
    <*> listField fs "fields" WizardField.read
    <*> optionalField fs (either "nextStep" "next_step") readText
    <*> listField fs "branches" WizardBranch.read

/-- Reads a link. -/
def CtaLink.read : Reader CtaLink := record fun fs =>
  .mk <$> requiredField fs "text" readText <*> requiredField fs "url" readText

/-- Reads a result. -/
def ResultRule.read : Reader ResultRule := record fun fs =>
  .mk <$> requiredField fs "condition" readText <*> requiredField fs "title" readText
    <*> requiredField fs "body" readText
    <*> optionalField fs "cta" CtaLink.read

/-- Reads what a visitor is asked for. -/
def WizardLead.read : Reader WizardLead := record fun fs =>
  .mk <$> listField fs "fields" readText
    <*> defaultField fs (either "consentText" "consent_text") "" readText
    <*> defaultField fs "endpoint" "" readText

/-- Reads a band. -/
def ScoreBand.read : Reader ScoreBand := record fun fs =>
  .mk <$> requiredField fs "min" readNumber <*> requiredField fs "max" readNumber
    <*> requiredField fs "label" readText
    <*> optionalField fs "description" readText

/-- Reads an outcome. -/
def ScoreOutcome.read : Reader ScoreOutcome := record fun fs =>
  .mk <$> requiredField fs "min" readNumber <*> requiredField fs "max" readNumber
    <*> requiredField fs "title" readText
    <*> requiredField fs "body" readText <*> optionalField fs "cta" CtaLink.read

/-- Reads the scoring. -/
def Scoring.read : Reader Scoring := record fun fs =>
  let table : Checked (ScoreTable Binary64) :=
    .mk <$> optionalField fs "method" (oneOf [("completion", .completion), ("weighted", .weighted)])
      <*> defaultField fs "weights" [] (readDict readNumber)
      <*> defaultField fs (either "valueMap" "value_map") [] (readDict (readDict readNumber))
  .mk <$> table <*> listField fs "bands" ScoreBand.read
    <*> listField fs "outcomes" ScoreOutcome.read

/-- Reads a wizard. -/
def Wizard.read : Reader Wizard := record fun fs =>
  .mk <$> listField fs "steps" WizardStep.read
    <*> listField fs (either "resultRules" "result_rules") ResultRule.read
    <*> defaultField fs (either "resultTemplate" "result_template") .recommendation
      (oneOf [("summary", .summary), ("recommendation", .recommendation), ("score", .score),
        ("eligibility", .eligibility)])
    <*> optionalField fs (either "collectLead" "collect_lead") WizardLead.read
    <*> optionalField fs "scoring" Scoring.read

end StaticSite
