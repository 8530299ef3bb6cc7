import StaticSite.Content.Article
import StaticSite.Content.Page
import StaticSite.Schema.Reader

/-!
# Sites

A site belongs to a domain. A request holds all records that its files are made of, and the files
are what a site consists of in the end.
-/

namespace StaticSite

/-!
## Evidence

Datasets are sources that several articles may share; citations belong to one article and stand in
order.
-/

open Schema

/-- A source of data as one article uses it. -/
structure Dataset where
  id : String
  name : String
  sourceUrl : Option String
  sourceTitle : Option String
  publisher : Option String
  retrievedAt : Option Timestamp
  expiresAt : Option Timestamp
  usage : Option String
deriving Repr

/-- A citation of an article. -/
structure Citation where
  position : Int
  sourceUrl : String
  sourceTitle : Option String
  retrievedAt : Option Timestamp
  claimText : Option String
deriving Repr

/-- Reads a dataset. -/
def Dataset.read : Reader Dataset := record fun fs =>
  .mk <$> requiredField fs "id" readText <*> requiredField fs "name" readText
    <*> optionalField fs "source_url" readText
    <*> optionalField fs "source_title" readText <*> optionalField fs "publisher" readText
    <*> optionalField fs "retrieved_at" readTimestamp
    <*> optionalField fs "expires_at" readTimestamp
    <*> optionalField fs "usage" readText

/-- Reads a citation. -/
def Citation.read : Reader Citation := record fun fs =>
  .mk <$> defaultField fs "position" 0 readInteger <*> requiredField fs "source_url" readText
    <*> optionalField fs "source_title" readText <*> optionalField fs "retrieved_at" readTimestamp
    <*> optionalField fs "claim_text" readText

/-! ## Domains and requests -/

open Schema

/-- The domain of a site, and how the site looks. -/
structure Domain where
  id : String
  domain : String
  niche : Option String
  subNiche : Option String
  vertical : Option String
  template : Option String
  themeStyle : Option String
  theme : Option String
  skin : Option String
  siteTitle : Option String
deriving Repr

/-- What a site discloses about itself. -/
structure Disclosure where
  affiliateDisclosure : Option String
  advertisingDisclosure : Option String
  notAdviceDisclaimer : Option String
  howWeMoneyContent : Option String
  editorialPolicyContent : Option String
  aboutContent : Option String
  showReviewedBy : Bool
  showLastUpdated : Bool
deriving Repr

/-- Script fragments for the head and the body of each page. -/
structure Monetization where
  head : String
  body : String
deriving Repr

/-- All records that the files of a site are made of. -/
structure CompileRequest where
  domain : Option Domain
  articles : List Article
  pages : List Page
  datasets : List (String × List Dataset)
  citations : List (String × List Citation)
  disclosure : Option Disclosure
  monetization : Option Monetization
  portfolioHostnames : List String
deriving Repr

/-- Pages that are to be checked before a site is compiled. -/
structure ValidateRequest where
  domain : String
  niche : Option String
  pages : List Page
deriving Repr

/-- Reads a domain. -/
def Domain.read : Reader Domain := record fun fs =>
  .mk <$> requiredField fs "id" readText <*> requiredField fs "domain" readText
    <*> optionalField fs "niche" readText
    <*> optionalField fs "sub_niche" readText <*> optionalField fs "vertical" readText
    <*> optionalField fs "template" readText <*> optionalField fs "theme_style" readText
    <*> optionalField fs "theme" readText <*> optionalField fs "skin" readText
    <*> optionalField fs "site_title" readText

/-- Reads a disclosure. -/
def Disclosure.read : Reader Disclosure := record fun fs =>
  .mk <$> optionalField fs "affiliate_disclosure" readText
    <*> optionalField fs "advertising_disclosure" readText
    <*> optionalField fs "not_advice_disclaimer" readText
    <*> optionalField fs "how_we_money_content" readText
    <*> optionalField fs "editorial_policy_content" readText
    <*> optionalField fs "about_content" readText
    <*> defaultField fs "show_reviewed_by" true readFlag
    <*> defaultField fs "show_last_updated" true readFlag

/-- Reads script fragments. -/
def Monetization.read : Reader Monetization := record fun fs =>
  .mk <$> defaultField fs "head" "" readText <*> defaultField fs "body" "" readText

/-- Reads a request. -/
def CompileRequest.read : Reader CompileRequest := record fun fs =>
  .mk <$> optionalField fs "domain" Domain.read <*> listField fs "articles" Article.read
    <*> listField fs "page_definitions" Page.read
    <*> defaultField fs "datasets" [] (readDict (readList Dataset.read))
    <*> defaultField fs "citations" [] (readDict (readList Citation.read))
    <*> optionalField fs "disclosure" Disclosure.read
    <*> optionalField fs "monetization" Monetization.read
    <*> listField fs "portfolio_hostnames" readText

/-- Reads a request for a check. -/
def ValidateRequest.read : Reader ValidateRequest := record fun fs =>
  .mk <$> requiredField fs "domain" readText <*> optionalField fs "niche" readText
    <*> listField fs "pages" Page.read

/-- Reads the hostname of a request for a title. -/
def readHostname : Reader String := record fun fs =>
  requiredField fs "hostname" (textWithin 1 253)

/-!
## Files
-/

/-- A file of a site, by its path from the root of the site. -/
structure SiteFile where
  path : String
  content : String
  isBinary : Bool := false
deriving DecidableEq, Repr

/-- Reads a file. -/
def SiteFile.read : Reader SiteFile := record fun fs =>
  .mk <$> requiredField fs "path" readText <*> requiredField fs "content" readText
    <*> defaultField fs "is_binary" false readFlag

end StaticSite
