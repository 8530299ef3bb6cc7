import StaticSite.Block.Action
import StaticSite.Block.Figures
import StaticSite.Block.Frame
import StaticSite.Block.Links
import StaticSite.Block.Reviews
import StaticSite.Block.Text
import StaticSite.Block.Widgets

/-!
# Rendering blocks

`Block.markup` never fails: a block of an unknown type and one that cannot be rendered leave a
comment with the name of their type, from which everything is removed that could end the comment.
-/

namespace StaticSite

/-- What a block of a type shows. -/
def BlockKind.render (b : Block) (ctx : BlockContext) : BlockKind → BlockResult
  | .articleBody => b.articleBody ctx
  | .authorBio => return b.authorBio
  | .ctaBanner => return b.ctaBanner
  | .checklist => return b.checklist
  | .citations => return b.citations
  | .comparisonTable => b.comparisonTable
  | .costBreakdown => b.costBreakdown
  | .dataTable => b.dataTable
  | .embedWidget => return b.embedWidget
  | .faq => return b.faq
  | .footer => b.footer ctx
  | .geoContent => b.geoContent
  | .header => return b.header ctx
  | .hero => return b.hero ctx
  | .interactiveMap => return b.interactiveMap
  | .lastUpdated => return b.lastUpdated
  | .latestArticles => return b.latestArticles
  | .leadForm => b.leadForm
  | .medicalDisclaimer => return b.medicalDisclaimer
  | .pdfDownload => return b.pdfDownload
  | .pricingTable => return b.pricingTable
  | .prosConsCard => b.prosConsCard
  | .quoteCalculator => b.quoteCalculator ctx
  | .rankingList => b.rankingList
  | .resourceGrid => return b.resourceGrid
  | .scrollCta => return b.scrollCta
  | .sidebar => return b.sidebar
  | .statGrid => b.statGrid
  | .stepByStep => return b.checklist
  | .testimonialGrid => b.testimonialGrid
  | .trustBadges => return b.trustBadges
  | .versusCard => b.versusCard
  | .wizard => b.wizard ctx

namespace Block

/-- The name of a type without double hyphens, which have a meaning in comments. -/
def commentName (type : String) : String := Text.replaceAll type "--" ""

/-- A comment that takes the place of a block. -/
def comment (reason type : String) : Markup :=
  html ("<!-- " ++ reason ++ ": ") ++ esc (commentName type) ++ html " -->"

/-- The markup of a block. -/
def markup (b : Block) (ctx : BlockContext) : Markup :=
  match BlockKind.named? b.type with
  | none => comment "unknown block" b.type
  | some kind =>
    match kind.render b ctx with
    | .ok m => m
    | .error _ => comment "render error" b.type

end Block

end StaticSite
