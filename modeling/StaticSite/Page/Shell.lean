import StaticSite.Content.Site
import StaticSite.Html.Markup
import StaticSite.Style.Layout
import StaticSite.Text.Find

/-!
# The frame of a page

All pages of a site made of articles share a frame: header, footer, and a column beside the
contents if the layout has one.

* `trustLinks` are the links to the pages of trust that a site has.
* `PageShell.build` makes the frame of a site, and `PageShell.wrap` puts the contents of a page into
  it.
-/

namespace StaticSite

/-- A link with its label. -/
structure NavLink where
  label : String
  href : String
deriving DecidableEq, Repr

namespace NavLink

/-- A link as an element. -/
def anchor (l : NavLink) : Markup := el "a" [attr "href" l.href] (esc l.label)

/-- A link as an item of a list. -/
def item (l : NavLink) : Markup := el "li" [] l.anchor

/-- Links as the items of a list. -/
def items (ls : List NavLink) : Markup := Markup.concat (ls.map item)

/-- The link to the home page. -/
def home : NavLink := ⟨"Home", "/"⟩

end NavLink

/-- A text that is not empty. -/
def present? (s : Option String) : Option String := s.filter fun s => !s.isEmpty

/-- The links to the pages of trust that a site has. -/
def trustLinks (settings : Option Disclosure) : List NavLink :=
  let link (label href : String) (text : Option String) : List NavLink :=
    if (present? text).isSome then [⟨label, href⟩] else []
  match settings with
  | none => []
  | some d =>
    link "About" "/about/" d.aboutContent ++
      link "Editorial Policy" "/editorial-policy/" d.editorialPolicyContent ++
      link "How We Make Money" "/how-we-make-money/" d.howWeMoneyContent

/-- What the frame of a site is made from. -/
structure Frame where
  siteTitle : String
  layout : Layout
  settings : Option Disclosure := none
  links : List NavLink := []
  monetization : Option Monetization := none
  niche : Option String := none
  year : Int

namespace Frame

/-- The header. -/
def header (f : Frame) : Markup :=
  let links := NavLink.home :: trustLinks f.settings
  let nav :=
    if f.layout.header = .minimal then []
    else [.indent 4 <| el "nav" [] (Markup.concat (links.map NavLink.anchor))]
  Markup.rows
    ([startTag "header" [cls ("site-header header--" ++ f.layout.header.word)],
      .indent 2 <| startTag "div" [cls "site-container"],
      .indent 4 <| el "a" [attr "href" "/", cls "logo"] (esc f.siteTitle)] ++
      nav ++
      [.indent 2 <| endTag "div", endTag "header"])

/-- A column of links in the footer. -/
def linkColumn (heading : String) (links : List NavLink) : List Markup :=
  [.indent 4 <| startTag "div" [cls "footer-col"],
   .indent 6 <| el "h4" [] (esc heading),
   .indent 6 <| el "ul" [] (NavLink.items links),
   .indent 4 <| endTag "div"]

/-- The columns of links in the footer. -/
def linkColumns (f : Frame) : Markup :=
  let trust := trustLinks f.settings
  Markup.rows
    ([.indent 2 <| startTag "div" [cls "footer-columns"]] ++
      linkColumn "Site" [.home, ⟨"Sitemap", "/sitemap.xml"⟩] ++
      (if trust.isEmpty then [] else linkColumn "Trust" trust) ++
      [.indent 2 <| endTag "div"])

/-- The disclosure in the footer. -/
def disclaimer? (f : Frame) : Option String :=
  f.settings.bind fun d =>
    (present? d.advertisingDisclosure).orElse fun _ => present? d.affiliateDisclosure

/-- The line of the footer with the disclosure, if there is one. -/
def disclaimerLine (f : Frame) : Markup :=
  Markup.whenSome f.disclaimer? fun t =>
    Markup.rows [.indent 2 <| el "p" [cls "footer-disclaimer"] (esc t)]

/-- The line of the footer with the year and the title of the site. -/
def copyrightLine (f : Frame) (more : String) : Markup :=
  .indent 4 <|
    el "p" [] (html "&copy; " ++ esc (toString f.year ++ " " ++ f.siteTitle ++ more))

/-- What every footer ends with. -/
def footerEnd (f : Frame) (className more : String) : List Markup :=
  [.indent 2 <| startTag "div" [cls className], f.linkColumns, f.disclaimerLine,
   f.copyrightLine more, .indent 2 <| endTag "div"]

/-- The invitation in a footer with a call to action. -/
def invitation (f : Frame) : List Markup :=
  [.indent 2 <| startTag "div" [cls "footer-cta"],
   .indent 4 <| el "h3" [] (esc ("Looking for more from " ++ f.siteTitle ++ "?")),
   .indent 4 <| el "p" [] (esc "Browse every guide we have published."),
   .indent 4 <| el "a" [attr "href" "/"] (esc "Explore all guides"),
   .indent 2 <| endTag "div"]

/-- The field for a mail address. -/
def mailField : Markup :=
  leaf "input"
    [attr "type" "email", attr "name" "email", attr "placeholder" "you@example.com",
     attr "aria-label" "Email address", flag "required"]

/-- The form in a footer with a newsletter. -/
def subscription (f : Frame) : List Markup :=
  [.indent 2 <| startTag "div" [cls "footer-newsletter"],
   .indent 4 <| el "h4" [] (esc "Stay in the loop"),
   .indent 4 <|
     el "p" [] (esc ("New guides from " ++ f.siteTitle ++ ", straight to your inbox.")),
   .indent 4 <| startTag "form" [cls "newsletter-form", attr "onsubmit" "return false;"],
   .indent 6 <| mailField,
   .indent 6 <| el "button" [attr "type" "submit"] (esc "Subscribe"),
   .indent 4 <| endTag "form",
   .indent 2 <| endTag "div"]

/-- The parts of the footer. -/
def footerParts (f : Frame) : List Markup :=
  match f.layout.footer with
  | .multiColumn => f.footerEnd "site-container" ". All rights reserved."
  | .ctaBar => f.invitation ++ f.footerEnd "footer-bottom" ""
  | .newsletter => f.subscription ++ f.footerEnd "footer-bottom" ""
  | .minimal => f.footerEnd "site-container" ""

/-- The footer. -/
def footer (f : Frame) : Markup :=
  Markup.rows
    ([startTag "footer" [cls ("site-footer footer--" ++ f.layout.footer.word)]] ++
      f.footerParts ++ [endTag "footer"])

/-- The number of links beside the contents. -/
def maxSidebarLinks : Nat := 6

/-- What a site says about itself beside the contents. -/
def about (f : Frame) : String :=
  match present? f.niche with
  | some niche =>
    "Independent guides and tools about " ++ Text.replaceAll niche "_" " " ++ "."
  | none => "Independent guides and tools."

/-- A part of the column beside the contents. -/
def sidebarSection (heading : String) (contents : Markup) : List Markup :=
  [.indent 2 <| startTag "div" [cls "sidebar-section"],
   .indent 4 <| el "h3" [] (esc heading),
   .indent 4 <| contents,
   .indent 2 <| endTag "div"]

/-- The column beside the contents. -/
def sidebar (f : Frame) : Markup :=
  let recent := f.links.take maxSidebarLinks
  Markup.rows
    ([startTag "aside" [cls "sidebar"]] ++
      (if recent.isEmpty then []
       else sidebarSection "Popular Guides" (el "ul" [] (NavLink.items recent))) ++
      sidebarSection ("About " ++ f.siteTitle) (el "p" [] (esc f.about)) ++
      [endTag "aside"])

end Frame

/-- The frame of the pages of a site. -/
structure PageShell where
  siteTitle : String
  headScripts : Markup
  bodyScripts : Markup
  header : Markup
  footer : Markup
  sidebar : Markup
  hasSidebar : Bool

namespace PageShell

/-- Makes the frame of a site. The fragments of the provider of advertisements are taken as they
are. -/
def build (f : Frame) : PageShell where
  siteTitle := f.siteTitle
  headScripts := Markup.whenSome f.monetization fun m => html m.head
  bodyScripts := Markup.whenSome f.monetization fun m => html m.body
  header := f.header
  footer := f.footer
  sidebar := Markup.when f.layout.hasSidebar f.sidebar
  hasSidebar := f.layout.hasSidebar

/-- What stands in the head of a page. -/
structure PageHead where
  title : String
  description : String
  extra : Markup := .empty

/-- The lines that begin the head of every document. -/
def headStart (description : String) : List Markup :=
  [html "<!DOCTYPE html>",
   startTag "html" [attr "lang" "en"],
   startTag "head" [],
   .indent 2 <| leaf "meta" [attr "charset" "UTF-8"],
   .indent 2 <| leaf "meta"
     [attr "name" "viewport", attr "content" "width=device-width, initial-scale=1.0"],
   .indent 2 <| leaf "meta" [attr "name" "description", attr "content" description],
   .indent 2 <| leaf "meta" [attr "name" "robots", attr "content" "index, follow"]]

/-- The link to a style sheet. -/
def stylesheetLink (href : String) : Markup :=
  leaf "link" [attr "rel" "stylesheet", attr "href" href]

/-- The link to the icon of a site. -/
def iconLink : Markup :=
  leaf "link" [attr "rel" "icon", attr "href" "/favicon.svg", attr "type" "image/svg+xml"]

/-- The contents of a page beside the column of the layout, if it has one. -/
def columns (s : PageShell) (contents : Markup) : Markup :=
  let main := el "main" [] contents
  el "div" [cls "site-container"]
    (if s.hasSidebar then el "div" [cls "layout-wrap"] (main ++ s.sidebar) else main)

/-- A page with given contents. -/
def wrap (s : PageShell) (head : PageHead) (contents : Markup) : Markup :=
  Markup.rows
    (headStart head.description ++
      [.indent 2 <| el "title" [] (esc (head.title ++ " | " ++ s.siteTitle)),
       .indent 2 <| stylesheetLink "/styles.css",
       .indent 2 <| iconLink,
       .indent 2 <| s.headScripts,
       .indent 2 <| head.extra,
       endTag "head",
       startTag "body" [],
       s.header,
       s.columns contents,
       s.footer,
       s.bodyScripts,
       endTag "body",
       endTag "html"])

end PageShell

end StaticSite
