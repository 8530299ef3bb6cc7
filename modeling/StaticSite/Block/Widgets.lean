import StaticSite.Block.Context
import StaticSite.Widget.Calculator
import StaticSite.Widget.Comparison
import StaticSite.Widget.Costs
import StaticSite.Widget.LeadForm
import StaticSite.Widget.Regions
import StaticSite.Widget.Wizard

/-!
# Widgets

Blocks that show a widget which articles show too. Their content is read as strictly as the
payload of an article, and a block whose content does not fit cannot be rendered.
-/

namespace StaticSite.Block

variable (b : Block) (ctx : BlockContext)

/-- The content of a block as what a reader makes of it. -/
def payload {α : Type} (read : Schema.Reader α) : Except BlockError α :=
  BlockError.ofChecked (read (.obj b.content))

/-- A comparison. One without options or without columns is left out. -/
def comparisonTable : BlockResult := do
  let c ← payload b Comparison.read
  if c.options.isEmpty || c.columns.isEmpty then return .empty
  else
    let table ← BlockError.ofPage c.table
    return Markup.lines
      [startTag "section" [cls "comparison-section"],
       .indent 2 <| sectionHeading (b.content.text? "title"),
       .indent 2 <| table,
       .indent 2 <| c.verdictNote.getD .empty,
       .indent 2 <| c.sorter,
       endTag "section"]

/-- A calculator. One without inputs is left out. -/
def quoteCalculator : BlockResult := do
  let c ← payload b Calculator.read
  let marker := b.id ++ "-"
  let heading := (b.content.text? "heading").orElse fun _ => b.config.text? "heading"
  return Markup.when (!c.inputs.isEmpty)
    (Markup.lines
      [sectionHeading heading, c.form marker, c.code marker false ctx.domain])

/-- Ranges of prices and what they depend on. A guide without ranges is left out. -/
def costBreakdown : BlockResult := do
  let guide ← payload b CostGuide.read
  let spans ← BlockError.ofInteger (guide.ranges.mapM CostRange.span)
  return Markup.when (!spans.isEmpty)
    (Markup.lines
      [startTag "section" [cls "cost-section"],
       .indent 2 <| sectionHeading (b.content.text? "title"),
       .indent 2 <| costCards spans,
       .indent 2 <| factorGrid guide.factors,
       endTag "section"])

/-- The form of a block with given fields. A number sign is no address. -/
def leadFormOf (fields : List LeadField) : LeadForm :=
  let endpoint := (b.config.text? "endpoint").filter fun e => e != "#"
  { fields
    consentText := b.content.text "consentText"
    endpoint := secureEndpoint? endpoint
    successMessage := (b.content.text? "successMessage").getD
      "Thank you! We'll be in touch shortly."
    disclosureAboveFold := none
    privacyPolicyUrl := (b.content.text? "privacyUrl").orElse fun _ =>
      b.content.text? "privacyPolicyUrl" }

/-- A contact form. One without fields is left out. -/
def leadForm : BlockResult := do
  let fields ← (b.content.records "fields").mapM fun f =>
    BlockError.ofChecked (LeadField.read (.obj f))
  let form := leadFormOf b fields
  return Markup.when (!fields.isEmpty)
    (Markup.lines
      [startTag "section" [cls "lead-section"],
       .indent 2 <| textIn "div" "disclosure-above" (b.content.text? "disclosureAboveFold"),
       .indent 2 <| textIn "h2" "lead-heading" (b.content.text? "heading"),
       .indent 2 <| textIn "p" "lead-subheading" (b.content.text? "subheading"),
       .indent 2 <| form.form,
       .indent 2 <| form.code,
       endTag "section"])

/-- Texts for regions. -/
def geoContent : BlockResult := do return (← payload b GeoGuide.read).texts

/-- The regions of a map; those that are no objects are left out. -/
def mapEntries : List MapEntry :=
  (b.content.object "regions").filterMap fun (key, region) =>
    region.asObject?.map fun (r : Fields) =>
      ⟨key, (r.text? "label").getD (Text.upper key), Html.sanitize (r.text "content")⟩

/-- A map of regions. One without regions is left out. -/
def interactiveMap : Markup :=
  Markup.whenSome (RegionMap.ofEntries? (mapEntries b) (b.content.text "fallback")) fun m =>
    RegionMap.markup
      { m with
        start := b.content.text? "defaultRegion"
        showTiles := b.config.flag "showTileGrid" true
        showList := b.config.flag "showDropdown" true }

/-- A wizard. One without steps is left out. -/
def wizard : BlockResult := do
  let w ← payload b Wizard.read
  let mode := Wizard.Mode.named (b.config.text "mode")
  return Markup.when (!w.steps.isEmpty)
    (Markup.lines
      [startTag "section" [cls "wizard-section"],
       w.panels mode w.leadEndpoint?,
       w.code mode false ctx.domain,
       endTag "section"])

end StaticSite.Block
