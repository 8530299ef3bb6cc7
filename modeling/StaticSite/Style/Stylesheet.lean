import StaticSite.Style.Components
import StaticSite.Style.Css
import StaticSite.Style.Layout
import StaticSite.Style.Skin
import StaticSite.Style.Theme

/-!
# The style sheet of a site

A site has one style sheet. A site made of articles has the palette of its style at the end; a site
made of blocks has the properties of its theme and skin at the beginning, so that every later rule
may use them.
-/

namespace StaticSite.Palette

/-!
## Palettes

A palette is a short style sheet with fonts and colours of its own, for sites made of articles.
-/

open Css

/-- The rules of `navy-serif`. -/
def navySerif : String := row
  [rule "body" ["font-family:Georgia,serif", "background-color:#f4f4f9", "color:#0a1929"],
   rule "header" ["border-bottom:2px solid #0a1929"],
   rule ".logo" ["color:#0a1929"],
   rule ".hero" ["background-color:#0a1929", "color:white", "padding:5rem 0"],
   rule "footer" ["background-color:#0a1929", "color:white", "margin-top:0"]]

/-- The rules of `green-modern`. -/
def greenModern : String := row
  [rule "body"
     ["font-family:Inter,system-ui,sans-serif", "background-color:#f0fdf4", "color:#14532d"],
   rule ".logo" ["color:#15803d"],
   rule "a" ["color:#16a34a"]]

/-- The rules of `medical-clean`. -/
def medicalClean : String := row
  [rule "body" ["font-family:system-ui,sans-serif", "background-color:#ffffff", "color:#334155"],
   rule ".hero" ["color:#0ea5e9"]]

/-- The rules of `professional-blue`. -/
def professionalBlue : String := row
  [rule "body"
     ["font-family:Merriweather,Georgia,serif", "background:#f8fafc", "color:#1e293b",
      "line-height:1.75"],
   rule "header" ["border-bottom:3px solid #1e3a5f"],
   rule ".logo" ["color:#1e3a5f"],
   rule ".hero" ["background:#1e3a5f", "color:white", "padding:5rem 2rem"],
   rule "a" ["color:#2563eb"],
   rule "footer" ["background:#1e3a5f", "color:#94a3b8", "padding:2rem 1rem"],
   rule "footer a" ["color:#93c5fd"],
   rule ".disclaimer" ["background:#fef9c3", "border-color:#ca8a04"],
   rule ".cta-button" ["background:#1e3a5f"]]

/-- The rules of `health-clean`. -/
def healthClean : String := row
  [rule "body"
     ["font-family:system-ui,-apple-system,sans-serif", "background:#ffffff", "color:#334155",
      "line-height:1.8"],
   rule "header" ["border-bottom:2px solid #10b981"],
   rule ".logo" ["color:#047857"],
   rule "a" ["color:#059669"],
   rule ".hero" ["background:#f0fdf4", "color:#065f46"],
   rule ".disclaimer" ["background:#fef3c7", "border:2px solid #f59e0b"],
   rule ".reviewed-by"
     ["background:#f0fdf4", "padding:0.5rem 0.75rem", "border-left:3px solid #10b981"]]

/-- The rules of `consumer-friendly`. -/
def consumerFriendly : String := row
  [rule "body"
     ["font-family:Inter,system-ui,sans-serif", "background:#fffbf5", "color:#292524",
      "line-height:1.7"],
   rule "header" ["border-bottom:2px solid #f59e0b"],
   rule ".logo" ["color:#b45309"],
   rule "a" ["color:#d97706"],
   rule ".hero"
     ["background:linear-gradient(135deg,#fef3c7,#fed7aa)", "color:#78350f",
      "padding:4rem 2rem", "border-radius:1rem"],
   rule ".cta-button" ["background:#d97706", "border-radius:0.5rem"]]

/-- The rules of `tech-modern`. -/
def techModern : String := row
  [rule "body"
     ["font-family:JetBrains Mono,SF Mono,monospace", "background:#0f172a", "color:#e2e8f0",
      "line-height:1.65"],
   rule "header" ["border-bottom:1px solid #334155"],
   rule ".logo" ["color:#38bdf8"],
   rule "a" ["color:#38bdf8"],
   rule ".hero"
     ["background:#1e293b", "color:#f1f5f9", "border:1px solid #334155", "border-radius:0.5rem",
      "padding:3rem 2rem"],
   rule "article" ["background:#1e293b", "padding:2rem", "border-radius:0.5rem"],
   rule ".calc-form,.lead-form" ["background:#1e293b", "border-color:#334155", "color:#e2e8f0"],
   rule ".comparison-table th" ["background:#1e293b", "color:#94a3b8"]]

/-- The rules of `trust-minimal`. -/
def trustMinimal : String := row
  [rule "body"
     ["font-family:system-ui,-apple-system,sans-serif", "background:#ffffff", "color:#1f2937",
      "line-height:1.7"],
   rule "header" ["border:none", "margin-bottom:3rem"],
   rule ".logo" ["color:#374151", "font-size:1.125rem"],
   rule "a" ["color:#4b5563", "text-decoration:underline"],
   rule ".sources" ["font-size:0.8rem", "color:#6b7280"],
   rule "footer" ["font-size:0.75rem", "color:#9ca3af"]]

/-- The rules of `hobby-vibrant`. -/
def hobbyVibrant : String := row
  [rule "body"
     ["font-family:Nunito,system-ui,sans-serif", "background:#fefce8", "color:#422006",
      "line-height:1.7"],
   rule "header" ["border-bottom:3px solid #eab308"],
   rule ".logo" ["color:#a16207", "font-weight:800"],
   rule "a" ["color:#ca8a04"],
   rule ".hero"
     ["background:linear-gradient(135deg,#fef08a,#fde68a)", "color:#713f12",
      "padding:4rem 2rem", "border-radius:1.5rem"],
   rule ".cta-button" ["background:#ca8a04", "border-radius:0.75rem"],
   rule ".faq-question" ["background:#fef9c3"]]

/-- The palettes with their names. -/
def named : List (String × String) :=
  [("navy-serif", navySerif),
   ("green-modern", greenModern),
   ("medical-clean", medicalClean),
   ("professional-blue", professionalBlue),
   ("health-clean", healthClean),
   ("consumer-friendly", consumerFriendly),
   ("tech-modern", techModern),
   ("trust-minimal", trustMinimal),
   ("hobby-vibrant", hobbyVibrant)]

/-- The palette of a site that asks for none. -/
def plain : String := rule "body" ["font-family:system-ui,sans-serif"]

/-- The palette with a name; for an unknown name the plain one. -/
def ofName (name : Option String) : String := (name.bind fun n => named.lookup n).getD plain

end StaticSite.Palette

namespace StaticSite.Stylesheet

/-! ## Style sheets -/

/-- The properties of a theme and a skin. -/
def tokens (theme : Theme) (skin : Skin) : String :=
  "\n".intercalate [theme.css, skin.css, skin.darkCss]

/-- The style sheet of a site made of articles. -/
def forArticles (layout : Layout) (style : Option String) : String :=
  "\n".intercalate [componentStyles, layout.css, Palette.ofName style]

/-- The style sheet of a site made of blocks. -/
def forBlocks (layout : Layout) (theme : Theme) (skin : Skin) : String :=
  "\n".intercalate [tokens theme skin, componentStyles, layout.css]

end StaticSite.Stylesheet
