import StaticSite.Page.LinkedData
import StaticSite.Page.Shell

/-!
# The home page and the page for what is missing

A site made of articles has a home page that lists them. Every site has a page that is shown for
addresses that lead nowhere.
-/

namespace StaticSite

/-- What a site is about, in a line. -/
def tagline (niche : Option String) : String :=
  "Expert guides about " ++ Text.replaceAll ((present? niche).getD "various topics") "_" " "

/-- The opening of a home page. -/
def homeOpening (hero : HeroStyle) (title tagline : String) : List Markup :=
  let heading := el "h1" [] (esc title)
  if hero = .plain then [heading]
  else
    [startTag "section" [cls "hero"],
     .indent 2 <| heading,
     .indent 2 <| el "p" [cls "hero-sub"] (esc tagline),
     endTag "section"]

/-- The list of articles on a home page. -/
def articleList (links : List NavLink) : List Markup :=
  let items := if links.isEmpty then [el "li" [] (esc "No articles yet")]
    else links.map NavLink.item
  [startTag "section" [cls "articles"],
   .indent 2 <| el "h2" [] (esc "Latest Guides"),
   .indent 2 <| startTag "ul" []] ++
    items.map (.indent 4) ++
    [.indent 2 <| endTag "ul", endTag "section"]

/-- The home page of a site made of articles. -/
def homePage (domain : String) (niche : Option String) (hero : HeroStyle) (links : List NavLink)
    (shell : PageShell) : Markup :=
  let title := shell.siteTitle
  let about := tagline niche
  let contents := Markup.rows
    (homeOpening hero title about ++ [siteData domain title about] ++ articleList links)
  shell.wrap { title, description := about } contents

/-- The page for addresses that lead nowhere. -/
def missingPage (shell : PageShell) : Markup :=
  let back := el "a" [attr "href" "/", cls "cta-button"] (esc ("Back to " ++ shell.siteTitle))
  let contents := Markup.rows
    [startTag "section" [cls "not-found"],
     .indent 2 <| el "h1" [] (esc "Page not found"),
     .indent 2 <| el "p" [] (html "The page you were looking for doesn't exist or has moved."),
     .indent 2 <| el "p" [] back,
     endTag "section"]
  shell.wrap { title := "Page Not Found", description := "" } contents

end StaticSite
