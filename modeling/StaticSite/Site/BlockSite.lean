import StaticSite.Link.Injection
import StaticSite.Page.Blocks
import StaticSite.Site.Compilation
import StaticSite.Style.Appearance
import StaticSite.Style.Stylesheet

/-!
# Sites made of pages

A site made of pages has a file for each, whose mentions of other pages are links. The page at the
root, or else the first one, and the domain decide on the appearance of the site; a page may name
another theme or skin for itself.
-/

namespace StaticSite.Compilation

variable (c : Compilation)

/-- The pages of the site. -/
def pages : List Page := publishedPages c.request.pages

/-- The page that decides on the appearance of the site. -/
def home? : Option Page := (c.pages.find? fun p => Block.isHome p.route).or c.pages.head?

/-- The appearance of the site. -/
def appearance : Appearance :=
  let homeTheme := c.home?.bind fun p => present? p.theme
  let homeSkin := c.home?.bind fun p => present? p.skin
  Appearance.resolve
    { theme := homeTheme.or c.domain.theme
      skin := homeSkin.or c.domain.skin
      style := c.domain.themeStyle
      vertical := c.domain.vertical
      niche := c.domain.niche }

/-- What a page names, if it is known, or else what the site has. -/
def pick (known : List String) (wish : Option String) (default : String) : String :=
  (wish.filter fun w => known.contains w).getD default

/-- What the blocks of a page know of it. -/
def blockContext (p : Page) : BlockContext where
  domain := c.domain.domain
  siteTitle := c.title
  route := p.route
  theme := pick (Theme.words.map Prod.fst) p.theme c.appearance.theme.word
  skin := pick (Skin.words.map Prod.fst) p.skin c.appearance.skin.word
  pageTitle := p.title
  pageDescription := p.metaDescription
  published := none
  updated := p.updatedAt
  headScripts := Markup.whenSome c.request.monetization fun m => html m.head
  bodyScripts := Markup.whenSome c.request.monetization fun m => html m.body
  policy := c.policy
  now := c.now

/-- A page as a file. -/
def pageFile (p : Page) : SiteFile :=
  { path := Route.filePath p.route
    content := (blockPage p.blocks (c.blockContext p) "/styles.css").text }

/-- The pages in the map of the site. -/
def pageEntries : List SitemapEntry := c.pages.map fun p => ⟨p.route, c.dayOf p.updatedAt⟩

/-- The files of a site made of pages. -/
def blockSite : Except PageError (List SiteFile) :=
  let targets := c.pages.map fun p => (⟨p.route, p.title.getD ""⟩ : Link.Target)
  let linked := Link.linkFiles targets (c.pages.map c.pageFile)
  c.complete linked c.pageEntries
    (Stylesheet.forBlocks c.layout c.appearance.theme c.appearance.skin) (c.shell [])

end StaticSite.Compilation
