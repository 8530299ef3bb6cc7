import StaticSite.Link.Injection
import StaticSite.Page.Contents
import StaticSite.Page.Embed
import StaticSite.Site.Compilation
import StaticSite.Style.Stylesheet

/-!
# Sites made of articles

A site made of articles has a home page that lists them and a page for each, whose mentions of other
articles are links. Calculators and wizards have a page for embedding too.
-/

namespace StaticSite

/-- The route of the page of an article. -/
def Article.route (a : Article) : String := "/" ++ a.slug ++ "/"

/-- The file that holds the page of an article. -/
def Article.path (a : Article) : String := a.slug ++ "/index.html"

/-- The file that holds an article for embedding. -/
def Article.embedPath (a : Article) : String := "embed/" ++ a.slug ++ ".html"

namespace Compilation

variable (c : Compilation)

/-- The articles of the site. -/
def articles : List Article := liveArticles c.request.articles

/-- The links to the articles of the site. -/
def articleLinks : List NavLink := c.articles.map fun a => ⟨a.title, a.route⟩

/-- The frame of the pages, with links to all articles. -/
def articleShell : PageShell := c.shell c.articleLinks

/-- What the page of an article needs besides the article. -/
def articleContext (a : Article) : ArticleContext where
  domain := c.domain.domain
  shell := some c.articleShell
  settings := c.request.disclosure
  datasets := (c.request.datasets.lookup a.id).getD []
  citations := (c.request.citations.lookup a.id).getD []
  policy := c.policy
  now := c.now

/-- The page of an article as a file. -/
def articleFile (a : Article) : Except PageError SiteFile := do
  return { path := a.path, content := (← articlePage a (c.articleContext a)).text }

/-- The home page as a file. -/
def homeFile : SiteFile :=
  { path := "index.html"
    content := (homePage c.domain.domain c.domain.niche c.layout.hero c.articleLinks
      c.articleShell).text }

/-- An article for embedding as a file. -/
def embedFile? (a : Article) : Option SiteFile :=
  (embedPage? a c.domain.domain).map fun m => { path := a.embedPath, content := m.text }

/-- The articles in the map of the site, after the home page. -/
def articleEntries : List SitemapEntry :=
  ⟨"/", c.today⟩ :: c.articles.map fun a =>
    ⟨"/" ++ a.slug, c.dayOf (a.times.updated.orElse fun _ => a.times.published)⟩

/-- The files of a site made of articles. -/
def articleSite : Except PageError (List SiteFile) := do
  let pages ← c.articles.mapM c.articleFile
  let targets := c.articles.map fun a => (⟨a.route, a.title⟩ : Link.Target)
  let linked := Link.linkFiles targets (c.homeFile :: pages)
  let embedded := c.articles.filterMap c.embedFile?
  c.complete (linked ++ embedded) c.articleEntries
    (Stylesheet.forArticles c.layout c.domain.themeStyle) c.articleShell

end Compilation

end StaticSite
