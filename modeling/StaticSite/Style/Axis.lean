import StaticSite.Style.Css

/-!
# The choices of a layout

A layout is made of six independent choices: how wide its pages are, how its columns lie, and how
its header, its hero, its list of articles and its footer look. Each choice has a word, and the
last four have rules of their own, which begin with a comment that names the choice.
-/

namespace StaticSite

/-- How wide pages are. -/
inductive PageWidth where
  | narrow
  | medium
  | wide
  | full
deriving DecidableEq, Repr

/-- The word for a width. -/
def PageWidth.word : PageWidth → String
  | .narrow => "narrow"
  | .medium => "medium"
  | .wide => "wide"
  | .full => "full"

/-- How the columns of a page lie. -/
inductive PageGrid where
  | single
  | sidebarRight
  | sidebarLeft
deriving DecidableEq, Repr

/-- The word for a grid. -/
def PageGrid.word : PageGrid → String
  | .single => "single"
  | .sidebarRight => "sidebar-right"
  | .sidebarLeft => "sidebar-left"

/-- How the header looks. -/
inductive HeaderStyle where
  | simple
  | centered
  | topbar
  | minimal
deriving DecidableEq, Repr

/-- The word for a style of header. -/
def HeaderStyle.word : HeaderStyle → String
  | .simple => "simple"
  | .centered => "centered"
  | .topbar => "topbar"
  | .minimal => "minimal"

/-- How the hero looks. -/
inductive HeroStyle where
  | plain
  | centeredText
  | gradientSplit
  | fullWidthDark
  | card
deriving DecidableEq, Repr

/-- The word for a style of hero. -/
def HeroStyle.word : HeroStyle → String
  | .plain => "none"
  | .centeredText => "centered-text"
  | .gradientSplit => "gradient-split"
  | .fullWidthDark => "full-width-dark"
  | .card => "card"

/-- How the list of articles looks. -/
inductive ListingStyle where
  | list
  | twoColumns
  | threeColumns
  | magazine
  | compactTable
  | hidden
deriving DecidableEq, Repr

/-- The word for a style of listing. -/
def ListingStyle.word : ListingStyle → String
  | .list => "list"
  | .twoColumns => "card-grid-2col"
  | .threeColumns => "card-grid-3col"
  | .magazine => "magazine-mixed"
  | .compactTable => "compact-table"
  | .hidden => "none"

/-- How the footer looks. -/
inductive FooterStyle where
  | minimal
  | multiColumn
  | ctaBar
  | newsletter
deriving DecidableEq, Repr

/-- The word for a style of footer. -/
def FooterStyle.word : FooterStyle → String
  | .minimal => "minimal"
  | .multiColumn => "multi-column"
  | .ctaBar => "cta-bar"
  | .newsletter => "newsletter"

/-! ## Headers -/

open Css

namespace HeaderStyle

/-- The rules for the style `minimal`. -/
def minimalRules : String := sheet
  [rule "header"
     ["padding:1rem 0", "border-bottom:var(--border-width,1px) solid var(--color-border,#e2e8f0)"],
   rule "header .site-container"
     ["display:flex", "align-items:center", "justify-content:space-between"],
   rule "header .logo"
     ["font-family:var(--font-heading)", "font-size:1.125rem", "font-weight:700",
      "color:var(--color-text)", "text-decoration:none"],
   rule "header nav" ["display:none"]]

/-- The rules for the style `centered`. -/
def centeredRules : String := sheet
  [rule "header"
     ["padding:1.5rem 0", "text-align:center",
      "border-bottom:var(--border-width,1px) solid var(--color-border,#e2e8f0)",
      "background:var(--color-bg)"],
   rule "header .site-container"
     ["display:flex", "flex-direction:column", "align-items:center", "gap:0.75rem"],
   rule "header .logo"
     ["font-family:var(--font-heading)", "font-size:1.5rem", "font-weight:800",
      "color:var(--color-text)", "text-decoration:none", "letter-spacing:-0.025em"],
   rule "header nav" ["display:flex", "gap:1.5rem", "flex-wrap:wrap", "justify-content:center"],
   rule "header nav a"
     ["color:var(--color-text-muted)", "text-decoration:none", "font-size:0.875rem",
      "font-weight:500"],
   rule "header nav a:hover" ["color:var(--color-text)"]]

/-- The rules for the style `topbar`. -/
def topbarRules : String := sheet
  [rule "header"
     ["background:var(--color-primary,#1e293b)", "color:var(--color-badge-text,#f8fafc)",
      "padding:0", "border-bottom:2px solid var(--color-header-border,transparent)"],
   rule "header .site-container"
     ["display:flex", "align-items:center", "justify-content:space-between",
      "padding-top:0.875rem", "padding-bottom:0.875rem", "max-width:1200px"],
   rule "header .logo"
     ["font-family:var(--font-heading)", "font-size:1.25rem", "font-weight:700",
      "color:var(--color-badge-text,#f8fafc)", "text-decoration:none"],
   rule "header nav" ["display:flex", "gap:1.25rem"],
   rule "header nav a"
     ["color:rgba(255,255,255,.7)", "text-decoration:none", "font-size:0.875rem",
      "font-weight:500"],
   rule "header nav a:hover" ["color:#fff"],
   block "@media(max-width:640px)"
     [rule "header .site-container" ["flex-direction:column", "gap:0.5rem", "text-align:center"],
      rule "header nav" ["flex-wrap:wrap", "justify-content:center"]]]

/-- The rules for the style `simple`. -/
def simpleRules : String := sheet
  [rule "header"
     ["padding:1.25rem 0", "border-bottom:2px solid var(--color-border,#e2e8f0)",
      "background:var(--color-bg)"],
   rule "header .site-container"
     ["display:flex", "align-items:center", "justify-content:space-between"],
   rule "header .logo"
     ["font-family:var(--font-heading)", "font-size:1.25rem", "font-weight:700",
      "color:var(--color-text)", "text-decoration:none"],
   rule "header nav" ["display:flex", "gap:1.25rem"],
   rule "header nav a"
     ["color:var(--color-text-muted)", "text-decoration:none", "font-size:0.9rem"],
   rule "header nav a:hover" ["color:var(--color-text)", "text-decoration:underline"]]

/-- The rules for a style. -/
def rules : HeaderStyle → String
  | .minimal => minimalRules
  | .centered => centeredRules
  | .topbar => topbarRules
  | .simple => simpleRules

/-- The part of a style sheet for a style. -/
def css (s : HeaderStyle) : String := comment ("Header: " ++ s.word) ++ "\n" ++ s.rules

end HeaderStyle

/-! ## Heroes -/

namespace HeroStyle

/-- The rules for the style `none`. -/
def plainRules : String := sheet
  [rule ".hero" ["padding:2.5rem 0 1.5rem"],
   rule ".hero h1" ["font-size:clamp(1.75rem,4vw,2.25rem)", "margin-bottom:0.75rem"],
   rule ".hero-sub" ["color:var(--color-text-muted)", "font-size:1.1rem", "max-width:600px"],
   rule ".hero-badge"
     ["display:inline-block", "background:var(--color-badge-bg)", "color:var(--color-badge-text)",
      "padding:0.25rem 0.75rem", "border-radius:var(--radius-full,999px)", "font-size:0.78rem",
      "font-weight:600", "margin-bottom:1rem"],
   rule ".hero-cta" ["display:inline-block", "margin-top:1.25rem"]]

/-- The rules for the style `centered-text`. -/
def centeredTextRules : String := sheet
  [rule ".hero"
     ["text-align:center", "padding:4rem 1.5rem",
      "border-bottom:var(--border-width,1px) solid var(--color-border)",
      "background:var(--color-hero-bg,var(--color-bg-surface))"],
   rule ".hero h1"
     ["font-size:clamp(2rem,5vw,2.75rem)", "font-weight:800", "letter-spacing:-0.03em",
      "margin-bottom:0.75rem", "color:var(--color-hero-text,var(--color-text))"],
   rule ".hero-sub"
     ["color:var(--color-text-muted)", "font-size:1.15rem", "max-width:600px", "margin:0 auto",
      "line-height:1.65"],
   rule ".hero-badge"
     ["display:inline-block", "background:var(--color-badge-bg)", "color:var(--color-badge-text)",
      "padding:0.3rem 0.9rem", "border-radius:var(--radius-full,999px)", "font-size:0.8rem",
      "font-weight:600", "margin-bottom:1.25rem"],
   rule ".hero-cta"
     ["display:inline-block", "margin-top:1.5rem", "background:var(--color-accent)", "color:#fff",
      "padding:0.75rem 2rem", "border-radius:var(--radius-md,.5rem)", "font-weight:600"]]

/-- The rules for the style `gradient-split`. -/
def gradientSplitRules : String := sheet
  [rule ".hero"
     ["background:var(--color-hero-bg,linear-gradient(135deg,var(--color-primary)," ++
        "var(--color-primary-hover)))",
      "color:var(--color-hero-text,#f8fafc)", "padding:3.5rem 2rem",
      "border-radius:var(--radius-lg,.75rem)", "margin:1.5rem 0"],
   rule ".hero h1"
     ["font-size:clamp(2rem,5vw,2.5rem)", "font-weight:800", "margin-bottom:0.75rem",
      "color:inherit"],
   rule ".hero-sub"
     ["color:rgba(255,255,255,.75)", "font-size:1.1rem", "max-width:640px", "line-height:1.65"],
   rule ".hero-badge"
     ["display:inline-block", "background:rgba(255,255,255,.15)", "color:#fff",
      "padding:0.3rem 0.9rem", "border-radius:var(--radius-full,999px)", "font-size:0.8rem",
      "font-weight:600", "margin-bottom:1.25rem"],
   rule ".hero-cta"
     ["display:inline-block", "margin-top:1.5rem", "background:#fff",
      "color:var(--color-primary)", "padding:0.75rem 2rem",
      "border-radius:var(--radius-md,.5rem)", "font-weight:600"]]

/-- The rules for the style `full-width-dark`. -/
def fullWidthDarkRules : String := sheet
  [rule ".hero"
     ["background:var(--color-primary,#0f172a)", "color:var(--color-hero-text,#f8fafc)",
      "padding:4rem 2rem", "text-align:center"],
   rule ".hero h1"
     ["font-size:clamp(2rem,5vw,2.75rem)", "font-weight:800", "letter-spacing:-0.03em",
      "margin-bottom:0.75rem", "color:inherit"],
   rule ".hero-sub"
     ["color:rgba(255,255,255,.65)", "font-size:1.15rem", "max-width:640px", "margin:0 auto",
      "line-height:1.65"],
   rule ".hero-badge"
     ["display:inline-block", "background:rgba(255,255,255,.1)", "color:#fff",
      "padding:0.3rem 0.9rem", "border-radius:var(--radius-full,999px)", "font-size:0.8rem",
      "font-weight:600", "margin-bottom:1.25rem"],
   rule ".hero-cta"
     ["display:inline-block", "margin-top:1.5rem", "background:#fff",
      "color:var(--color-primary)", "padding:0.75rem 2rem",
      "border-radius:var(--radius-md,.5rem)", "font-weight:600"]]

/-- The rules for the style `card`. -/
def cardRules : String := sheet
  [rule ".hero"
     ["background:var(--color-bg-surface,#f8fafc)",
      "border:var(--border-width,1px) solid var(--color-border)",
      "border-radius:var(--radius-lg,1rem)", "padding:3rem 2rem", "margin:1.5rem 0",
      "text-align:center"],
   rule ".hero h1"
     ["font-size:clamp(1.75rem,4vw,2.25rem)", "font-weight:700", "margin-bottom:0.5rem"],
   rule ".hero-sub"
     ["color:var(--color-text-muted)", "font-size:1.05rem", "max-width:560px", "margin:0 auto"],
   rule ".hero-badge"
     ["display:inline-block", "background:var(--color-badge-bg)", "color:var(--color-badge-text)",
      "padding:0.25rem 0.75rem", "border-radius:var(--radius-full,999px)", "font-size:0.78rem",
      "font-weight:600", "margin-bottom:1rem"],
   rule ".hero-cta"
     ["display:inline-block", "margin-top:1.25rem", "background:var(--color-accent)",
      "color:#fff", "padding:0.625rem 1.5rem", "border-radius:var(--radius-md,.5rem)",
      "font-weight:600"]]

/-- The rules for a style. -/
def rules : HeroStyle → String
  | .plain => plainRules
  | .centeredText => centeredTextRules
  | .gradientSplit => gradientSplitRules
  | .fullWidthDark => fullWidthDarkRules
  | .card => cardRules

/-- The part of a style sheet for a style. -/
def css (s : HeroStyle) : String := comment ("Hero: " ++ s.word) ++ "\n" ++ s.rules

end HeroStyle

/-! ## Lists of articles -/

namespace ListingStyle

/-- The rules for the style `list`. -/
def listRules : String := sheet
  [rule ".articles ul" ["list-style:none", "padding:0"],
   rule ".articles li" ["padding:0.875rem 0", "border-bottom:1px solid var(--color-border)"],
   rule ".articles li:last-child" ["border-bottom:none"],
   rule ".articles a"
     ["color:var(--color-text)", "text-decoration:none", "font-weight:500", "font-size:1.05rem"],
   rule ".articles a:hover" ["color:var(--color-link)"]]

/-- The rules for the style `card-grid-2col`. -/
def twoColumnsRules : String := sheet
  [rule ".articles ul"
     ["list-style:none", "padding:0", "display:grid", "grid-template-columns:repeat(2,1fr)",
      "gap:1.25rem"],
   rule ".articles li"
     ["background:var(--color-bg-surface)",
      "border:var(--border-width,1px) solid var(--color-border)",
      "border-radius:var(--radius-lg,.75rem)", "padding:1.25rem"],
   rule ".articles li:hover" ["box-shadow:var(--shadow-md)", "transform:translateY(-2px)"],
   rule ".articles a"
     ["color:var(--color-text)", "text-decoration:none", "font-weight:600", "font-size:1rem",
      "display:block"],
   nested "@media(max-width:640px)" 
     [rule ".articles ul" ["grid-template-columns:1fr"]]]

/-- The rules for the style `card-grid-3col`. -/
def threeColumnsRules : String := sheet
  [rule ".articles ul"
     ["list-style:none", "padding:0", "display:grid", "grid-template-columns:repeat(3,1fr)",
      "gap:1.25rem"],
   rule ".articles li"
     ["background:var(--color-bg)", "border:var(--border-width,1px) solid var(--color-border)",
      "border-radius:var(--radius-lg,.75rem)", "padding:1.25rem"],
   rule ".articles li:hover" ["box-shadow:var(--shadow-md)", "transform:translateY(-2px)"],
   rule ".articles a"
     ["color:var(--color-text)", "text-decoration:none", "font-weight:600", "font-size:0.95rem",
      "display:block"],
   nested "@media(max-width:900px)" 
     [rule ".articles ul" ["grid-template-columns:repeat(2,1fr)"]],
   nested "@media(max-width:640px)" 
     [rule ".articles ul" ["grid-template-columns:1fr"]]]

/-- The rules for the style `magazine-mixed`. -/
def magazineRules : String := sheet
  [rule ".articles ul"
     ["list-style:none", "padding:0", "display:grid", "grid-template-columns:repeat(3,1fr)",
      "gap:1.25rem"],
   rule ".articles li:first-child"
     ["grid-column:1/-1",
      "background:linear-gradient(135deg,var(--color-primary),var(--color-primary-hover))",
      "border-radius:var(--radius-lg,1rem)", "padding:2rem"],
   rule ".articles li:first-child a" ["color:#fff", "font-size:1.5rem", "font-weight:800"],
   rule ".articles li:not(:first-child)"
     ["background:var(--color-bg-surface)",
      "border:var(--border-width,1px) solid var(--color-border)",
      "border-radius:var(--radius-lg,.75rem)", "padding:1.25rem"],
   rule ".articles a"
     ["color:var(--color-text)", "text-decoration:none", "font-weight:600", "display:block"],
   nested "@media(max-width:768px)" 
     [rule ".articles ul" ["grid-template-columns:1fr"],
      rule ".articles li:first-child" ["padding:1.5rem"]]]

/-- The rules for the style `compact-table`. -/
def compactTableRules : String := sheet
  [rule ".articles ul"
     ["list-style:none", "padding:0",
      "border:var(--border-width,1px) solid var(--color-border,#e2e8f0)",
      "border-radius:var(--radius-md,.5rem)", "overflow:hidden"],
   rule ".articles li"
     ["padding:0.75rem 1rem", "border-bottom:1px solid var(--color-border,#f1f5f9)",
      "display:flex", "align-items:center", "justify-content:space-between"],
   rule ".articles li:last-child" ["border-bottom:none"],
   rule ".articles li:hover" ["background:var(--color-bg-surface,#f8fafc)"],
   rule ".articles a"
     ["color:var(--color-text,#1e293b)", "text-decoration:none", "font-weight:500",
      "font-size:0.95rem"]]

/-- The rules for the style `none`. -/
def hiddenRules : String := sheet
  [rule ".articles" ["display:none"]]

/-- The rules for a style. -/
def rules : ListingStyle → String
  | .list => listRules
  | .twoColumns => twoColumnsRules
  | .threeColumns => threeColumnsRules
  | .magazine => magazineRules
  | .compactTable => compactTableRules
  | .hidden => hiddenRules

/-- The part of a style sheet for a style. -/
def css (s : ListingStyle) : String := comment ("Listing: " ++ s.word) ++ "\n" ++ s.rules

end ListingStyle

/-! ## Footers -/

namespace FooterStyle

/-- The rules for columns of links. -/
def columnRules : String := sheet
  [rule ".footer-columns"
     ["display:flex", "gap:2rem", "justify-content:center", "margin-bottom:1rem",
      "flex-wrap:wrap"],
   rule ".footer-col h4"
     ["font-size:0.8rem", "text-transform:uppercase", "letter-spacing:0.05em",
      "margin-bottom:0.5rem"],
   rule ".footer-col ul" ["list-style:none"],
   rule ".footer-disclaimer"
     ["font-size:0.8rem", "max-width:600px", "margin:0 auto 1rem", "text-align:center",
      "line-height:1.5"]]

/-- The rules for the style `minimal`. -/
def minimalRules : String := sheet
  [rule "footer"
     ["padding:2.5rem 0", "border-top:var(--border-width,1px) solid var(--color-border)",
      "text-align:center", "color:var(--color-text-muted)", "font-size:0.85rem",
      "margin-top:3rem"],
   rule "footer a" ["color:var(--color-text-muted)", "text-decoration:none", "font-size:0.85rem"],
   rule "footer a:hover" ["color:var(--color-text)", "text-decoration:underline"]]

/-- The rules for the style `multi-column`. -/
def multiColumnRules : String := sheet
  [rule "footer"
     ["background:var(--color-footer-bg,#1e293b)", "color:var(--color-footer-text,#cbd5e1)",
      "padding:3rem 0 1.5rem", "margin-top:3rem"],
   rule "footer p" ["text-align:center", "font-size:0.8rem", "opacity:.7"],
   rule "footer a" ["color:var(--color-footer-text,#94a3b8)", "text-decoration:none"],
   rule "footer a:hover" ["color:#fff"],
   rule ".footer-columns"
     ["display:grid", "grid-template-columns:repeat(auto-fit,minmax(160px,1fr))", "gap:2rem",
      "margin-bottom:2rem", "padding-bottom:2rem", "border-bottom:1px solid rgba(255,255,255,.1)"],
   rule ".footer-col h4"
     ["font-size:0.8rem", "text-transform:uppercase", "letter-spacing:0.06em",
      "margin-bottom:0.75rem", "color:rgba(255,255,255,.5)"],
   rule ".footer-col ul" ["list-style:none"],
   rule ".footer-col li" ["margin-bottom:0.375rem"],
   rule ".footer-disclaimer"
     ["font-size:0.8rem", "opacity:.6", "max-width:600px", "margin:0 auto 1.5rem",
      "text-align:center", "line-height:1.5"]]

/-- The rules for the style `cta-bar`. -/
def ctaBarRules : String := sheet
  [rule "footer" ["padding:0", "margin-top:3rem"],
   rule ".footer-cta"
     ["background:linear-gradient(135deg,var(--color-primary),var(--color-accent))", "color:#fff",
      "padding:2.5rem", "text-align:center",
      "border-radius:var(--radius-lg) var(--radius-lg) 0 0"],
   rule ".footer-cta h3" ["font-size:1.25rem", "font-weight:700", "margin-bottom:0.5rem"],
   rule ".footer-cta a"
     ["display:inline-block", "background:#fff", "color:var(--color-primary)",
      "padding:0.75rem 1.75rem", "border-radius:var(--radius-md)", "font-weight:600",
      "text-decoration:none"],
   rule ".footer-bottom"
     ["background:var(--color-footer-bg,#1e293b)", "color:var(--color-footer-text,#94a3b8)",
      "padding:1.25rem 1.5rem", "text-align:center", "font-size:0.8rem"],
   rule "footer .footer-bottom a"
     ["color:var(--color-footer-text,#94a3b8)", "text-decoration:none"]]

/-- The rules for the style `newsletter`. -/
def newsletterRules : String := sheet
  [rule "footer" ["padding:0", "margin-top:3rem"],
   rule ".footer-newsletter"
     ["background:var(--color-bg-surface,#f8fafc)", "border-top:2px solid var(--color-border)",
      "padding:2.5rem", "text-align:center"],
   rule ".footer-newsletter h4" ["font-size:1.125rem", "font-weight:700", "margin-bottom:0.25rem"],
   rule ".newsletter-form" ["display:flex", "gap:0.5rem", "max-width:420px", "margin:0 auto"],
   rule ".newsletter-form input[type=\"email\"]"
     ["flex:1", "padding:0.625rem 0.875rem",
      "border:var(--border-width,1px) solid var(--color-border-strong)",
      "border-radius:var(--radius-md,.375rem)"],
   rule ".newsletter-form button"
     ["background:var(--color-accent,#2563eb)", "color:#fff", "padding:0.625rem 1.5rem",
      "border:none", "border-radius:var(--radius-md,.375rem)", "font-weight:600",
      "cursor:pointer"],
   rule ".footer-bottom"
     ["padding:1.5rem", "text-align:center", "color:var(--color-text-muted)", "font-size:0.8rem"],
   rule "footer a" ["color:var(--color-text-muted)", "text-decoration:none"],
   nested "@media(max-width:480px)" 
     [rule ".newsletter-form" ["flex-direction:column"],
      rule ".newsletter-form button" ["width:100%"]]]

/-- The rules for a style. -/
def rules : FooterStyle → String
  | .minimal => minimalRules ++ columnRules
  | .multiColumn => multiColumnRules
  | .ctaBar => ctaBarRules ++ columnRules
  | .newsletter => newsletterRules ++ columnRules

/-- The part of a style sheet for a style. -/
def css (s : FooterStyle) : String := comment ("Footer: " ++ s.word) ++ "\n" ++ s.rules

end FooterStyle

end StaticSite
