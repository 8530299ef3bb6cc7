import StaticSite.Content.Page
import StaticSite.Json.Printer
import StaticSite.Text.Case
import StaticSite.Text.Find

/-!
# Checks of a site

What may be wrong with a site before it is compiled, and the checks that find it in a block. An
error keeps a site from being ready, a warning does not.

* `Concern` is what is wrong, with its severity, code and message.
* `Issue` is a concern at its place.
* `Site.checkBlock` lists the concerns of one block. Links are checked against the routes of the
  site, and texts against the field of business.
-/

namespace StaticSite.Preflight

/-! ### Issues -/

/-- Whether an issue keeps a site from being ready. -/
inductive Severity where
  | error
  | warning
deriving DecidableEq, Repr

/-- The word for a severity. -/
def Severity.word : Severity → String
  | .error => "error"
  | .warning => "warning"

/-- What is wrong with a site. -/
inductive Concern where
  | brokenNavigation (label href : String)
  | brokenDropdown (label href : String)
  | genericName (name : String)
  | brokenLink (field url : String)
  | emptyCalculator
  | emptyCosts
  | emptyQuestions
  | emptyCitations
  | missingEndpoint
  | genericNiche (niche : String)
  | placeholder (marker : String)
  | emptyHero
  | shortDescription
  | missingHome
  | missingPrivacyPolicy
  | missingTerms
deriving DecidableEq, Repr

namespace Concern

/-- How severe a concern is. -/
def severity : Concern → Severity
  | .brokenNavigation .. | .brokenDropdown .. | .brokenLink .. | .emptyCalculator | .emptyCosts
  | .emptyQuestions | .emptyHero | .missingHome | .missingPrivacyPolicy | .missingTerms => .error
  | .genericName _ | .emptyCitations | .missingEndpoint | .genericNiche _ | .placeholder _
  | .shortDescription => .warning

/-- The code of a concern. -/
def code : Concern → String
  | .brokenNavigation .. | .brokenDropdown .. => "broken_nav"
  | .genericName _ => "generic_name"
  | .brokenLink .. => "broken_link"
  | .emptyCalculator => "empty_calculator"
  | .emptyCosts => "empty_costs"
  | .emptyQuestions => "empty_faq"
  | .emptyCitations => "empty_citations"
  | .missingEndpoint => "no_endpoint"
  | .genericNiche _ => "generic_niche"
  | .placeholder _ => "placeholder"
  | .emptyHero => "empty_hero"
  | .shortDescription => "missing_meta"
  | .missingHome => "no_homepage"
  | .missingPrivacyPolicy | .missingTerms => "missing_compliance"

/-- A link that leads nowhere. -/
def deadLink (href : String) : String := " → " ++ href ++ " (page doesn't exist)"

/-- The message of a concern. -/
def message : Concern → String
  | .brokenNavigation label href => "Nav \"" ++ label ++ "\"" ++ deadLink href
  | .brokenDropdown label href => "Dropdown \"" ++ label ++ "\"" ++ deadLink href
  | .genericName name => "Site name \"" ++ name ++ "\" looks unhumanized"
  | .brokenLink field url => field ++ deadLink url
  | .emptyCalculator => "Calculator has no inputs defined"
  | .emptyCosts => "Cost breakdown has no ranges"
  | .emptyQuestions => "FAQ has no items"
  | .emptyCitations => "Citation block has no sources"
  | .missingEndpoint => "LeadForm has fields but no endpoint; the form is disabled"
  | .genericNiche niche =>
    "Block contains \"Home Services\" but niche is \"" ++ niche ++ "\""
  | .placeholder marker => "Contains \"" ++ marker ++ "\""
  | .emptyHero => "Hero has no heading"
  | .shortDescription => "Page has no/short meta description"
  | .missingHome => "No homepage (/) found"
  | .missingPrivacyPolicy => "No privacy policy page"
  | .missingTerms => "No terms of service page"

end Concern

/-- A concern at its place: a page, and perhaps one of its blocks. -/
structure Issue where
  concern : Concern
  route : String
  block : Option String
deriving DecidableEq, Repr

/-- An issue as JSON. -/
def Issue.json (i : Issue) : Json :=
  .obj
    [("severity", .str i.concern.severity.word), ("code", .str i.concern.code),
     ("route", .str i.route), ("block_id", Json.ofText? i.block),
     ("message", .str i.concern.message)]

/-! ### Checks of a block -/

/-- What the blocks of a site are checked against. -/
structure Site where
  /-- The routes of the pages. -/
  routes : List String
  /-- The domain without its last part. -/
  slug : String
  /-- The field of business. -/
  niche : String

namespace Site

variable (s : Site)

/-- Whether an address within the site leads nowhere. -/
def isDead (href : String) : Bool := Text.startsWith href "/" && !s.routes.contains href

/-- The address of a field, if it leads nowhere. -/
def deadLink? (fs : Fields) (name : String) : Option String :=
  ((fs.lookup name).bind Json.asString?).filter s.isDead

/-- The text that labels a link. -/
def labelOf (link : Fields) : String := ((link.lookup "label").map Json.display).getD ""

/-- The concerns of an entry of a drop-down list. -/
def checkDropdown (link : Fields) : List Concern :=
  (s.deadLink? link "href").toList.map (.brokenDropdown (labelOf link))

/-- The concerns of an entry of the navigation. -/
def checkNavigation (link : Fields) : List Concern :=
  (s.deadLink? link "href").toList.map (.brokenNavigation (labelOf link)) ++
    (link.records "children").flatMap s.checkDropdown

/-- The length of the shortest name of a site that looks like one. -/
def leastNameLength : Nat := 3

/-- Whether the name of a site looks as if no one had chosen it. -/
def isGenericName (name : String) : Bool := name == s.slug || name.length < leastNameLength

/-- The concerns of a header. -/
def checkHeader (content : Fields) : List Concern :=
  let name := ((content.lookup "siteName").bind Json.asString?).filter s.isGenericName
  (content.records "navLinks").flatMap s.checkNavigation ++ name.toList.map .genericName

/-- The concerns of the links of a block. -/
def checkLinks (content : Fields) : List Concern :=
  ["ctaUrl", "buttonUrl"].flatMap fun field =>
    (s.deadLink? content field).toList.map (.brokenLink field)

/-- A concern, if a field holds no list or an empty one. -/
def checkList (content : Fields) (name : String) (concern : Concern) : List Concern :=
  if (content.items name).isEmpty then [concern] else []

/-- The concerns of the lists without which a block shows nothing. -/
def checkEmpty (b : Block) : List Concern :=
  match BlockKind.named? b.type with
  | some .quoteCalculator => checkList b.content "inputs" .emptyCalculator
  | some .costBreakdown => checkList b.content "ranges" .emptyCosts
  | some .faq => checkList b.content "items" .emptyQuestions
  | some .citations => checkList b.content "sources" .emptyCitations
  | _ => []

/-- Whether a contact form has nowhere to send its data to. -/
def lacksEndpoint (config : Fields) : Bool :=
  match config.lookup "endpoint" with
  | none | some .null => true
  | some (.str e) => e.isEmpty || e == "#"
  | _ => false

/-- The concerns of a contact form. -/
def checkForm (b : Block) : List Concern :=
  if BlockKind.named? b.type = some .leadForm && lacksEndpoint b.config &&
      !(b.content.items "fields").isEmpty
  then [.missingEndpoint] else []

/-- Whether the site is about homes. -/
def isAboutHomes : Bool :=
  let niche := Text.lower s.niche
  Text.contains niche "home services" || Text.contains niche "home improvement"

/-- The concerns of a text that speaks of homes on a site about something else. -/
def checkNiche (text : String) : List Concern :=
  if !s.isAboutHomes && (Text.contains text "Home Services" || Text.contains text "home services")
  then [.genericNiche s.niche] else []

/-- The marks of a text that is not finished. -/
def markers : List String := ["Lorem ipsum", "TODO", "REPLACE", "[insert", "[your"]

/-- The concerns of a text that is not finished. -/
def checkMarkers (text : String) : List Concern :=
  (markers.filter fun m => Text.contains text m).map .placeholder

/-- The length of the shortest heading that counts. -/
def leastHeadingLength : Nat := 5

/-- The concerns of the opening of a page. -/
def checkHero (b : Block) : List Concern :=
  let heading := (b.content.lookup "heading").bind Json.asString?
  let isGiven := heading.any fun h => leastHeadingLength ≤ h.length
  if BlockKind.named? b.type = some .hero && !isGiven then [.emptyHero] else []

/-- The concerns of a block. -/
def checkBlock (b : Block) : List Concern :=
  let text := (Json.obj b.content).render .unicode
  let ofHeader := if BlockKind.named? b.type = some .header then s.checkHeader b.content else []
  ofHeader ++ s.checkLinks b.content ++ checkEmpty b ++ checkForm b ++ s.checkNiche text ++
    checkMarkers text ++ checkHero b

end Site

end StaticSite.Preflight
