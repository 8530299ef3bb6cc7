import StaticSite.Style.Axis

/-!
# Layouts

A `Layout` makes one choice on each axis. `Layout.presets` are the layouts with a name, and
`Layout.css` is the part of a style sheet that belongs to a layout, axis by axis.
-/

namespace StaticSite

open Css

/-- The width of the contents of a page. -/
def PageWidth.size : PageWidth → String
  | .narrow => "640px"
  | .medium => "800px"
  | .wide => "1100px"
  | .full => "100%"

/-- The part of a style sheet for a width. -/
def PageWidth.css (w : PageWidth) : String :=
  let padding := if w = .full then "0 1.5rem" else "0 1rem"
  sheet
    [comment ("Max width: " ++ w.word),
     rule ".site-container" ["max-width:" ++ w.size, "margin:0 auto", "padding:" ++ padding]]

/-- The rules for the column beside the contents. -/
def sidebarRules : String := sheet
  [rule ".sidebar" ["position:sticky", "top:1.5rem"],
   rule ".sidebar-section"
     ["background:var(--color-bg-surface,#f8fafc)",
      "border:var(--border-width,1px) solid var(--color-border)",
      "border-radius:var(--radius-lg,.75rem)", "padding:1.25rem", "margin-bottom:1rem"],
   rule ".sidebar-section h3"
     ["font-size:0.9rem", "font-weight:700", "text-transform:uppercase", "letter-spacing:0.05em",
      "color:var(--color-text-muted)", "margin-bottom:0.75rem"],
   rule ".sidebar-section ul" ["list-style:none", "padding:0", "margin:0"],
   rule ".sidebar-section li"
     ["padding:0.375rem 0", "border-bottom:1px solid var(--color-border)"],
   rule ".sidebar-section li:last-child" ["border-bottom:none"],
   rule ".sidebar-section a"
     ["color:var(--color-link)", "text-decoration:none", "font-size:0.875rem"],
   block "@media(max-width:768px)"
     [rule ".layout-wrap" ["grid-template-columns:1fr"],
      rule ".sidebar" ["position:static", "order:99"]]]

/-- The part of a style sheet for two columns of given widths. -/
def twoColumnCss (g : PageGrid) (columns : String) : String :=
  sheet
    [comment ("Grid: " ++ g.word),
     rule ".layout-wrap"
       ["display:grid", "grid-template-columns:" ++ columns, "gap:2rem", "align-items:start"]]

/-- The part of a style sheet for a grid. -/
def PageGrid.css : PageGrid → String
  | .single =>
    sheet
      [comment "Grid: single column", rule ".layout-wrap" ["display:block"],
       rule ".sidebar" ["display:none"]]
  | .sidebarRight => twoColumnCss .sidebarRight "1fr 280px" ++ sidebarRules
  | .sidebarLeft =>
    twoColumnCss .sidebarLeft "280px 1fr" ++ sheet [rule ".sidebar" ["order:-1"]] ++ sidebarRules

/-- One choice on each axis. -/
structure Layout where
  width : PageWidth
  grid : PageGrid
  header : HeaderStyle
  hero : HeroStyle
  listing : ListingStyle
  footer : FooterStyle
deriving DecidableEq, Repr

namespace Layout

/-- Whether there is a column beside the contents. -/
def hasSidebar (l : Layout) : Bool := l.grid != .single

/-- The layouts with a name. -/
def presets : List (String × Layout) :=
  [("authority", ⟨.wide, .sidebarRight, .topbar, .fullWidthDark, .magazine, .multiColumn⟩),
   ("comparison", ⟨.wide, .single, .simple, .gradientSplit, .threeColumns, .ctaBar⟩),
   ("calculator", ⟨.medium, .single, .minimal, .card, .list, .minimal⟩),
   ("review", ⟨.wide, .sidebarRight, .topbar, .plain, .twoColumns, .multiColumn⟩),
   ("tool", ⟨.full, .single, .minimal, .plain, .compactTable, .minimal⟩),
   ("hub", ⟨.wide, .single, .topbar, .centeredText, .threeColumns, .multiColumn⟩),
   ("decision", ⟨.narrow, .single, .centered, .centeredText, .list, .minimal⟩),
   ("cost_guide", ⟨.wide, .sidebarLeft, .simple, .gradientSplit, .twoColumns, .ctaBar⟩),
   ("niche", ⟨.narrow, .single, .centered, .plain, .list, .minimal⟩),
   ("info", ⟨.wide, .sidebarLeft, .topbar, .plain, .compactTable, .multiColumn⟩),
   ("consumer", ⟨.wide, .single, .topbar, .gradientSplit, .threeColumns, .newsletter⟩),
   ("brand", ⟨.medium, .single, .centered, .fullWidthDark, .twoColumns, .minimal⟩),
   ("magazine", ⟨.wide, .single, .topbar, .fullWidthDark, .magazine, .multiColumn⟩),
   ("landing", ⟨.full, .single, .minimal, .gradientSplit, .hidden, .ctaBar⟩),
   ("docs", ⟨.wide, .sidebarLeft, .topbar, .plain, .list, .minimal⟩),
   ("storefront", ⟨.wide, .single, .topbar, .card, .threeColumns, .multiColumn⟩),
   ("minimal", ⟨.narrow, .single, .minimal, .plain, .list, .minimal⟩),
   ("dashboard", ⟨.full, .sidebarLeft, .topbar, .plain, .compactTable, .minimal⟩),
   ("newsletter", ⟨.narrow, .single, .centered, .centeredText, .list, .newsletter⟩),
   ("community", ⟨.wide, .sidebarRight, .topbar, .centeredText, .twoColumns, .multiColumn⟩)]

/-- The layout of a site that asks for none. -/
def default : Layout := ⟨.wide, .sidebarRight, .topbar, .fullWidthDark, .magazine, .multiColumn⟩

/-- The layout with a name; for an unknown name the default. -/
def named (name : Option String) : Layout := (name.bind fun n => presets.lookup n).getD default

/-- The part of a style sheet for a layout. -/
def css (l : Layout) : String :=
  "\n".intercalate
    [l.width.css, l.grid.css, l.header.css, l.hero.css, l.listing.css, l.footer.css]

end Layout

end StaticSite
