import StaticSite.Html.Markup
import StaticSite.Style.Appearance
import StaticSite.Text.Blank
import StaticSite.Time.Timestamp

/-!
# Files beside the pages

The files of a site that are no pages: what crawlers may read, the headers with which a host
answers, the icon of the site and its map.
-/

namespace StaticSite

/-! ## Crawlers and hosts -/

/-- The file that tells crawlers what they may read. -/
def robotsFile (domain : String) : String :=
  Text.unlines
    ["User-agent: *", "Allow: /", "", "Sitemap: https://" ++ domain ++ "/sitemap.xml", ""]

/-- The headers for files that never change under one name. -/
def longCache : String := "  Cache-Control: public, max-age=31536000, immutable"

/-- The headers for files that change. -/
def shortCache : String := "  Cache-Control: public, max-age=300, must-revalidate"

/-- The file with the headers for each kind of path. -/
def headersFile : String :=
  Text.unlines
    ["/*",
     "  X-Content-Type-Options: nosniff",
     "  X-Frame-Options: SAMEORIGIN",
     "  Referrer-Policy: strict-origin-when-cross-origin",
     "  Permissions-Policy: camera=(), microphone=(), geolocation=()",
     "",
     "/*.css",
     longCache,
     "",
     "/favicon.svg",
     longCache,
     "",
     "/*.html",
     shortCache,
     "",
     "/",
     shortCache,
     "",
     "/embed/*",
     "  ! X-Frame-Options",
     "  Content-Security-Policy: frame-ancestors *",
     ""]

/-!
## The icon of a site

The icon of a site is a sign for its field of business.
-/

/-- The signs for fields of business. -/
def fieldSigns : List (String × String) :=
  [("legal", "⚖️"), ("insurance", "🛡️"), ("health", "🩺"), ("finance", "💰"),
   ("real_estate", "🏠"), ("technology", "💻"), ("auto", "🚗"), ("home", "🔨"),
   ("education", "🎓"), ("travel", "✈️"), ("pets", "🐾"), ("relationships", "💬"),
   ("business", "📈")]

/-- The sign for all other fields. -/
def otherSign : String := "📘"

/-- The icon for a field of business. -/
def siteIcon (niche : Option String) : String :=
  let sign := ((Appearance.fieldKey? niche).bind fun key => fieldSigns.lookup key).getD otherSign
  "<svg xmlns=\"http://www.w3.org/2000/svg\" viewBox=\"0 0 100 100\">" ++
    "<text y=\".9em\" font-size=\"90\">" ++ sign ++ "</text></svg>"

/-!
## The map of a site

The map of a site lists the addresses of its pages, with the days on which they changed last.
-/

/-- A page in the map of a site. -/
structure SitemapEntry where
  path : String
  lastChange : Date
deriving DecidableEq, Repr

/-- The line of a page. -/
def SitemapEntry.line (domain : String) (e : SitemapEntry) : Markup :=
  html "  <url><loc>" ++ esc ("https://" ++ domain ++ e.path) ++ html "</loc><lastmod>" ++
    html e.lastChange.isoText ++ html "</lastmod></url>"

/-- The map of a site. -/
def sitemap (domain : String) (entries : List SitemapEntry) : Markup :=
  html ("<?xml version=\"1.0\" encoding=\"UTF-8\"?>\n" ++
      "<urlset xmlns=\"http://www.sitemaps.org/schemas/sitemap/0.9\">\n") ++
    Markup.joinWith "\n" (entries.map (SitemapEntry.line domain)) ++ html "\n</urlset>\n"

end StaticSite
