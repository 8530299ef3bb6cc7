import StaticSite.Schema.Reader

/-!
# Regional texts, calls to action and lead forms
-/

namespace StaticSite

open Schema

/-- The text for a region. -/
structure GeoRegion where
  content : String
  label : Option String
deriving Repr

/-- Texts by region, and the text for all others. -/
structure GeoGuide where
  regions : List (String × GeoRegion)
  fallback : String
deriving Repr

/-- The look of a call to action. -/
inductive CtaStyle where
  | bar
  | card
  | banner
deriving DecidableEq, Repr

/-- The word for a look. -/
def CtaStyle.word : CtaStyle → String
  | .bar => "bar"
  | .card => "card"
  | .banner => "banner"

/-- A call to action. -/
structure CallToAction where
  text : String
  buttonLabel : String
  buttonUrl : String
  style : CtaStyle
deriving Repr

/-- How a field of a form is filled in. -/
inductive LeadFieldKind where
  | text
  | email
  | tel
  | select
  | number
deriving DecidableEq, Repr

/-- The word for a kind of field. -/
def LeadFieldKind.word : LeadFieldKind → String
  | .text => "text"
  | .email => "email"
  | .tel => "tel"
  | .select => "select"
  | .number => "number"

/-- A field of a form. -/
structure LeadField where
  name : String
  label : String
  kind : LeadFieldKind
  required : Bool
  options : List String
deriving Repr

/-- A form that sends what a visitor fills in to an endpoint. -/
structure LeadForm where
  fields : List LeadField
  consentText : String
  endpoint : Option String
  successMessage : String
  disclosureAboveFold : Option String
  privacyPolicyUrl : Option String
deriving Repr

/-- Reads the text for a region. -/
def GeoRegion.read : Reader GeoRegion := record fun fs =>
  .mk <$> requiredField fs "content" readText <*> optionalField fs "label" readText

/-- Reads texts by region. -/
def GeoGuide.read : Reader GeoGuide := record fun fs =>
  .mk <$> defaultField fs "regions" [] (readDict GeoRegion.read)
    <*> defaultField fs "fallback" "" readText

/-- Reads a call to action. -/
def CallToAction.read : Reader CallToAction := record fun fs =>
  .mk <$> requiredField fs "text" readText
    <*> requiredField fs (either "buttonLabel" "button_label") readText
    <*> requiredField fs (either "buttonUrl" "button_url") readText
    <*> defaultField fs "style" .bar (oneOf [("bar", .bar), ("card", .card), ("banner", .banner)])

/-- Reads a field of a form. -/
def LeadField.read : Reader LeadField := record fun fs =>
  .mk <$> requiredField fs "name" readText <*> requiredField fs "label" readText
    <*> defaultField fs "type" .text
      (oneOf [("text", .text), ("email", .email), ("tel", .tel), ("select", .select),
        ("number", .number)])
    <*> defaultField fs "required" false readFlag <*> listField fs "options" readText

/-- Reads a form. -/
def LeadForm.read : Reader LeadForm := record fun fs =>
  .mk <$> listField fs "fields" LeadField.read
    <*> defaultField fs (either "consentText" "consent_text") "" readText
    <*> optionalField fs "endpoint" readText
    <*> defaultField fs (either "successMessage" "success_message")
      "Thanks! We'll be in touch shortly." readText
    <*> optionalField fs (either "disclosureAboveFold" "disclosure_above_fold") readText
    <*> optionalField fs (either "privacyPolicyUrl" "privacy_policy_url") readText

end StaticSite
