import StaticSite.Block.Render
import StaticSite.Page.LinkedData
import StaticSite.Page.Shell
import StaticSite.Style.Theme
import StaticSite.Text.Blank

/-!
# Pages made of blocks

A page made of blocks is a document of its own. A header stands before its main part and a footer
behind it; all other blocks become the sections of the main part, in order.

* `Block.wrapper` is a block as it stands on a page.
* `BlockPage.ofBlocks` puts the blocks of a page in their places. Of several headers or footers the
  last one counts.
* `blockPage` is the document.
-/

namespace StaticSite

/-!
## Block pages in the browser

The script of every page made of blocks: sections fade in as they are reached, a bar shows how far
the reader has come, a button leads back to the top, and figures count up.
-/

/-- What the script of a page made of blocks does. -/
def pageScript : String := Text.unlines
  ["(function()\x7b",
   "  if ('IntersectionObserver' in window) \x7b",
   "    var io = new IntersectionObserver(function(entries) \x7b",
   "      entries.forEach(function(e) \x7b",
   "        if (e.isIntersecting) \x7b e.target.classList.add('is-visible'); io.unobserve(e.targ" ++
     "et); \x7d",
   "      \x7d);",
   "    \x7d, \x7b threshold: 0.08, rootMargin: '0px 0px -40px 0px' \x7d);",
   "    document.querySelectorAll('section[data-animate]').forEach(function(s) \x7b io.observe(s" ++
     "); \x7d);",
   "  \x7d else \x7b",
   "    document.querySelectorAll('section[data-animate]').forEach(function(s) \x7b s.classList." ++
     "add('is-visible'); \x7d);",
   "  \x7d",
   "",
   "  var bar = document.querySelector('.reading-progress');",
   "  if (bar) \x7b",
   "    window.addEventListener('scroll', function() \x7b",
   "      var h = document.documentElement;",
   "      var pct = h.scrollTop / (h.scrollHeight - h.clientHeight) * 100;",
   "      bar.style.width = Math.min(pct, 100) + '%';",
   "    \x7d, \x7b passive: true \x7d);",
   "  \x7d",
   "",
   "  var btn = document.querySelector('.back-to-top');",
   "  if (btn) \x7b",
   "    window.addEventListener('scroll', function() \x7b",
   "      btn.classList.toggle('visible', window.scrollY > 400);",
   "    \x7d, \x7b passive: true \x7d);",
   "    btn.addEventListener('click', function() \x7b window.scrollTo(\x7b top: 0, behavior: 'sm" ++
     "ooth' \x7d); \x7d);",
   "  \x7d",
   "",
   "  if ('IntersectionObserver' in window) \x7b",
   "    var cio = new IntersectionObserver(function(entries) \x7b",
   "      entries.forEach(function(e) \x7b",
   "        if (!e.isIntersecting) return;",
   "        cio.unobserve(e.target);",
   "        var target = parseInt(e.target.getAttribute('data-count') || '0', 10);",
   "        if (!target) return;",
   "        var t0 = null;",
   "        function step(ts) \x7b",
   "          if (!t0) t0 = ts;",
   "          var p = Math.min((ts - t0) / 800, 1);",
   "          var ease = 1 - Math.pow(1 - p, 3);",
   "          e.target.textContent = Math.round(target * ease) + (e.target.getAttribute('data-su" ++
     "ffix') || '');",
   "          if (p < 1) requestAnimationFrame(step);",
   "        \x7d",
   "        requestAnimationFrame(step);",
   "      \x7d);",
   "    \x7d, \x7b threshold: 0.3 \x7d);",
   "    document.querySelectorAll('[data-count]').forEach(function(el) \x7b cio.observe(el); " ++
     "\x7d);",
   "  \x7d",
   "\x7d)();"]

/-! ## The document -/

/-- A block as it stands on a page. -/
def Block.wrapper (b : Block) (ctx : BlockContext) : Markup :=
  let identity := [attr "data-block-id" b.id, attr "data-block-type" b.type]
  if b.type == "Header" || b.type == "Footer" then el "div" identity (b.markup ctx)
  else
    let variant := attr? "data-block-variant" (b.variant.filter fun v => !v.isEmpty)
    el "section" (identity ++ [variant, flag "data-animate"]) (b.markup ctx)

/-- The blocks of a page in their places. -/
structure BlockPage where
  header : Markup := .empty
  sections : List Markup := []
  footer : Markup := .empty

namespace BlockPage

/-- Puts one more block in its place. -/
def add (ctx : BlockContext) (p : BlockPage) (b : Block) : BlockPage :=
  if b.type == "Header" then { p with header := b.wrapper ctx }
  else if b.type == "Footer" then { p with footer := b.wrapper ctx }
  else { p with sections := p.sections ++ [b.wrapper ctx] }

/-- Puts the blocks of a page in their places. -/
def ofBlocks (ctx : BlockContext) (blocks : List Block) : BlockPage :=
  blocks.foldl (add ctx) {}

end BlockPage

namespace BlockContext

variable (ctx : BlockContext)

/-- The title of a page, or that of the site. -/
def title : String := (present? ctx.pageTitle).getD ctx.siteTitle

/-- The title of a page followed by that of the site, unless they are the same. -/
def fullTitle : String :=
  match present? ctx.pageTitle with
  | some title => if title == ctx.siteTitle then title else title ++ " | " ++ ctx.siteTitle
  | none => ctx.siteTitle

/-- The description of a page. -/
def description : String := ctx.pageDescription.getD ""

/-- The address of a page. -/
def canonicalUrl : String := "https://" ++ ctx.domain ++ ctx.route

/-- The address by which a page is shared: that of the home page has no slash at its end. -/
def shareUrl : String :=
  "https://" ++ ctx.domain ++ if Block.isHome ctx.route then "" else ctx.route

/-- The tags by which other sites show a link to a page. -/
def shareTags : Markup :=
  let tags :=
    [propertyTag "og:title" ctx.title,
     propertyTag "og:description" ctx.description,
     propertyTag "og:url" ctx.shareUrl,
     propertyTag "og:type" (if Block.isHome ctx.route then "website" else "article"),
     propertyTag "og:site_name" ctx.domain,
     propertyTag "og:locale" "en_US",
     nameTag "twitter:card" "summary_large_image",
     nameTag "twitter:title" ctx.title,
     nameTag "twitter:description" ctx.description]
  Markup.joinWith "\n  "
    (tags ++ timeTags "article:published_time" ctx.published ++
      timeTags "article:modified_time" ctx.updated)

/-- The description of a page as linked data. -/
def pageData : Markup :=
  let url : Json := .str ctx.canonicalUrl
  linkedData
    [vocabularyMember, classMember (if Block.isHome ctx.route then "WebPage" else "Article"),
     ("name", .str ctx.title), ("headline", .str ctx.title),
     ("description", .str ctx.description), ("url", url),
     ("mainEntityOfPage", .obj [classMember "WebPage", ("@id", url)]),
     ("inLanguage", .str "en"),
     ("author", organization ctx.domain), ("publisher", organization ctx.domain),
     ("datePublished", timeMember ctx.published), ("dateModified", timeMember ctx.updated)]

/-- The way from the home page to a page as linked data. -/
def wayData : Markup :=
  if Block.isHome ctx.route then breadcrumbData ctx.domain none none
  else
    breadcrumbData ctx.domain (some ((present? ctx.pageTitle).getD ctx.route))
      (some ctx.canonicalUrl)

/-- The address of the fonts of the theme; an unknown theme has those of the plain one. -/
def fontUrl? : Option String := (Theme.named ctx.theme).fontUrl?

/-- The links to the fonts of the theme. -/
def fontLinks : List Markup :=
  match ctx.fontUrl? with
  | none => []
  | some url =>
    let connect (attrs : List Markup) := leaf "link" (attr "rel" "preconnect" :: attrs)
    [.indent 2 <| connect [attr "href" "https://fonts.googleapis.com"],
     .indent 2 <| connect [attr "href" "https://fonts.gstatic.com", flag "crossorigin"],
     .indent 2 <| PageShell.stylesheetLink url]

end BlockContext

/-- The document of a page made of blocks. -/
def blockPage (blocks : List Block) (ctx : BlockContext) (stylesheet : String) : Markup :=
  let page := BlockPage.ofBlocks ctx blocks
  Markup.rows
    (PageShell.headStart ctx.description ++
      [.indent 2 <| el "title" [] (esc ctx.fullTitle),
       .indent 2 <| leaf "link" [attr "rel" "canonical", attr "href" ctx.canonicalUrl],
       .indent 2 <| ctx.shareTags] ++
      ctx.fontLinks ++
      [.indent 2 <| PageShell.stylesheetLink stylesheet,
       .indent 2 <| PageShell.iconLink,
       .indent 2 <| ctx.pageData ++ html "\n  " ++ ctx.wayData,
       .indent 2 <| ctx.headScripts,
       endTag "head",
       startTag "body" [attr "data-theme" ctx.theme, attr "data-skin" ctx.skin],
       page.header,
       startTag "div" [cls "site-container"],
       .indent 2 <| startTag "main" [],
       Markup.lines page.sections,
       .indent 2 <| endTag "main",
       endTag "div",
       page.footer,
       el "div" [cls "reading-progress", attr "aria-hidden" "true"] .empty,
       el "button" [cls "back-to-top", attr "aria-label" "Back to top"] (html "&uarr;"),
       el "script" [] (html ("\n" ++ pageScript ++ "\n")),
       ctx.bodyScripts,
       endTag "body",
       endTag "html"])

end StaticSite
