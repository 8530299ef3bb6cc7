import StaticSite.Content.Prose
import StaticSite.Link.HostCache
import StaticSite.Page.Error
import StaticSite.Page.Home
import StaticSite.Site.Hosting
import StaticSite.Site.Selection
import StaticSite.Title.Hostname

/-!
# What the files of a site are made from

A `Compilation` holds a request together with what its files need besides. Sites of either kind
share the title, the layout, the frame, and the files that close a site.

* `trustPages` are the pages on which a site tells about itself. There are up to three, whose texts
  its disclosure holds; one whose place the contents of the site have taken is left out.
* `Compilation.shell` is the frame of the pages.
* `Compilation.complete` adds to the contents of a site its style sheet, the page for what is
  missing, the files for hosts and crawlers, the pages of trust, and the map.
-/

namespace StaticSite

/-! ### Pages of trust -/

/-- A page on which a site tells about itself. -/
structure TrustPage where
  name : String
  title : String
  text : String
deriving DecidableEq, Repr

namespace TrustPage

/-- The file that holds a page. -/
def path (p : TrustPage) : String := p.name ++ "/index.html"

/-- The pages for which a disclosure has a text. -/
def ofDisclosure (d : Disclosure) : List TrustPage :=
  let page (name title : String) (text : Option String) : Option TrustPage :=
    (present? text).map fun text => ⟨name, title, text⟩
  [page "about" "About Us" d.aboutContent,
   page "editorial-policy" "Editorial Policy" d.editorialPolicyContent,
   page "how-we-make-money" "How We Make Money" d.howWeMoneyContent].filterMap id

/-- The page as a file. -/
def file (p : TrustPage) (shell : PageShell) (policy : Link.LinkPolicy) :
    Except PageError SiteFile := do
  let text ← (renderProse policy p.text).mapError .address
  let contents := Markup.lines
    [startTag "article" [], el "h1" [] (esc p.title), text, endTag "article"]
  let head : PageShell.PageHead :=
    { title := p.title, description := p.title ++ " – " ++ shell.siteTitle }
  return { path := p.path, content := (shell.wrap head contents).text }

end TrustPage

/-- The pages of trust of a site, but for those whose paths are taken. -/
def trustPages (settings : Option Disclosure) (taken : List String) : List TrustPage :=
  match settings with
  | none => []
  | some d => (TrustPage.ofDisclosure d).filter fun p => !taken.contains p.path

/-! ### Compilations -/

/-- What the files of a site are made from. -/
structure Compilation where
  request : CompileRequest
  domain : Domain
  policy : Link.LinkPolicy
  now : Timestamp

namespace Compilation

variable (c : Compilation)

/-- The title of the site: its own, or one made of its domain. -/
def title : String := (present? c.domain.siteTitle).getD (Title.siteTitle c.domain.domain)

/-- The layout of the site. -/
def layout : Layout := Layout.named c.domain.template

/-- The day on which the site is made. -/
def today : Date := c.now.utc.date

/-- The frame of the pages, with links to articles. -/
def shell (links : List NavLink) : PageShell :=
  .build
    { siteTitle := c.title
      layout := c.layout
      settings := c.request.disclosure
      links
      monetization := c.request.monetization
      niche := c.domain.niche
      year := c.today.year }

/-- The files that every site has. -/
def fixedFiles (stylesheet : String) (shell : PageShell) : List SiteFile :=
  [{ path := "styles.css", content := stylesheet },
   { path := "404.html", content := (missingPage shell).text },
   { path := "robots.txt", content := robotsFile c.domain.domain },
   { path := "favicon.svg", content := siteIcon c.domain.niche },
   { path := "_headers", content := headersFile }]

/-- The day on which a record changed last. -/
def dayOf (t : Option Timestamp) : Date := (t.map (·.date)).getD c.today

/-- The map of the site as a file. -/
def sitemapFile (entries : List SitemapEntry) : SiteFile :=
  { path := "sitemap.xml", content := (sitemap c.domain.domain entries).text }

/-- The files of a site with given contents; `entries` are the contents in the map of the site. -/
def complete (contents : List SiteFile) (entries : List SitemapEntry) (stylesheet : String)
    (shell : PageShell) : Except PageError (List SiteFile) := do
  let files := contents ++ c.fixedFiles stylesheet shell
  let trust := trustPages c.request.disclosure (files.map (·.path))
  let trustFiles ← trust.mapM fun p => p.file shell c.policy
  let trustEntries := trust.map fun p => (⟨"/" ++ p.name ++ "/", c.today⟩ : SitemapEntry)
  return files ++ trustFiles ++ [c.sitemapFile (entries ++ trustEntries)]

end Compilation

end StaticSite
