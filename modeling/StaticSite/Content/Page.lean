import StaticSite.Schema.Reader

/-!
# Pages made of blocks

A page is a list of blocks at a route. The content and the configuration of a block are free
objects, which the renderer of its type reads.

`BlockKind` are the types of blocks that a page can be made of. A block has the name of its type,
and `BlockKind.named?` is the type with a name; every other name is unknown.
-/

namespace StaticSite

open Schema

/-- One block of a page. -/
structure Block where
  id : String
  type : String
  variant : Option String
  content : Fields
  config : Fields
deriving Repr

/-- A page made of blocks. -/
structure Page where
  id : String
  route : String
  title : Option String
  metaDescription : Option String
  theme : Option String
  skin : Option String
  blocks : List Block
  isPublished : Bool
  updatedAt : Option Timestamp
deriving Repr

/-- Reads a block. -/
def Block.read : Reader Block := record fun fs =>
  .mk <$> requiredField fs "id" readText <*> requiredField fs "type" readText
    <*> optionalField fs "variant" readText
    <*> defaultField fs "content" [] readObject <*> defaultField fs "config" [] readObject

/-- Reads a page. -/
def Page.read : Reader Page := record fun fs =>
  .mk <$> requiredField fs "id" readText <*> defaultField fs "route" "/" readText
    <*> optionalField fs "title" readText
    <*> optionalField fs "meta_description" readText <*> optionalField fs "theme" readText
    <*> optionalField fs "skin" readText <*> listField fs "blocks" Block.read
    <*> defaultField fs "is_published" false readFlag
    <*> optionalField fs "updated_at" readTimestamp

/-! ### Types of blocks -/

/-- A type of block. -/
inductive BlockKind where
  | articleBody
  | authorBio
  | ctaBanner
  | checklist
  | citations
  | comparisonTable
  | costBreakdown
  | dataTable
  | embedWidget
  | faq
  | footer
  | geoContent
  | header
  | hero
  | interactiveMap
  | lastUpdated
  | latestArticles
  | leadForm
  | medicalDisclaimer
  | pdfDownload
  | pricingTable
  | prosConsCard
  | quoteCalculator
  | rankingList
  | resourceGrid
  | scrollCta
  | sidebar
  | statGrid
  | stepByStep
  | testimonialGrid
  | trustBadges
  | versusCard
  | wizard
deriving DecidableEq, Repr

namespace BlockKind

/-- The types of blocks by their names, in the order of the names. -/
def names : List (String × BlockKind) :=
  [("ArticleBody", .articleBody), ("AuthorBio", .authorBio), ("CTABanner", .ctaBanner),
   ("Checklist", .checklist), ("CitationBlock", .citations),
   ("ComparisonTable", .comparisonTable), ("CostBreakdown", .costBreakdown),
   ("DataTable", .dataTable), ("EmbedWidget", .embedWidget), ("FAQ", .faq), ("Footer", .footer),
   ("GeoContent", .geoContent), ("Header", .header), ("Hero", .hero),
   ("InteractiveMap", .interactiveMap), ("LastUpdated", .lastUpdated),
   ("LatestArticles", .latestArticles), ("LeadForm", .leadForm),
   ("MedicalDisclaimer", .medicalDisclaimer), ("PdfDownload", .pdfDownload),
   ("PricingTable", .pricingTable), ("ProsConsCard", .prosConsCard),
   ("QuoteCalculator", .quoteCalculator), ("RankingList", .rankingList),
   ("ResourceGrid", .resourceGrid), ("ScrollCTA", .scrollCta), ("Sidebar", .sidebar),
   ("StatGrid", .statGrid), ("StepByStep", .stepByStep), ("TestimonialGrid", .testimonialGrid),
   ("TrustBadges", .trustBadges), ("VsCard", .versusCard), ("Wizard", .wizard)]

/-- The type of block with a name. -/
def named? (name : String) : Option BlockKind := names.lookup name

end BlockKind

end StaticSite
