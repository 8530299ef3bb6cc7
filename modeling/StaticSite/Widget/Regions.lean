import StaticSite.Content.Outreach
import StaticSite.Html.Sanitize
import StaticSite.Html.Script
import StaticSite.Text.Case
import StaticSite.Widget.Scripts

/-!
# Regions

What is shown for regions: a text for the region of the reader, or a map of which one region shows
at a time.
-/

namespace StaticSite

/-!
## Texts for regions

A guide may hold a text for each region. All texts are part of the page, hidden, and the script
shows those for the region of the reader, or else the text for all others.
-/

/-- The text for a region. -/
def regionBlock (key : String) (r : GeoRegion) : Markup :=
  let label := Markup.whenSome (r.label.filter fun l => !l.isEmpty) fun l =>
    el "span" [cls "geo-label"] (esc l)
  Markup.lines
    [startTag "div" [cls "geo-block", attr "data-region" key, attr "style" "display:none"],
     .indent 2 <| label,
     .indent 2 <| el "div" [cls "geo-content"] (Html.sanitize r.content),
     endTag "div"]

/-- The text for all other regions. -/
def otherRegions (fallback : String) : Markup :=
  Markup.lines
    [startTag "div" [cls "geo-block geo-fallback"],
     .indent 2 <| el "div" [cls "geo-content"] (Html.sanitize fallback),
     endTag "div"]

/-- The texts of a guide, unless it has no regions. -/
def GeoGuide.texts (g : GeoGuide) : Markup :=
  Markup.when (!g.regions.isEmpty)
    (Markup.lines
      [startTag "div" [cls "geo-adaptive"],
       Markup.lines (g.regions.map fun (key, r) => regionBlock key r),
       otherRegions g.fallback,
       endTag "div",
       script regionScript])

/-!
## Maps of regions

A map shows one region at a time. Regions are chosen by buttons, from a list, or, if there are many,
by tiles. What belongs to no region is shown when none is chosen.
-/

/-- A region of a map. -/
structure MapEntry where
  key : String
  label : String
  content : Markup
deriving DecidableEq, Repr

/-- The regions of a guide. -/
def GeoGuide.mapEntries (g : GeoGuide) : List MapEntry :=
  g.regions.map fun (key, r) =>
    let label := r.label.filter fun l => !l.isEmpty
    ⟨key, label.getD (Text.upper key), Html.sanitize r.content⟩

namespace MapEntry

/-- The button that chooses a region. -/
def button (e : MapEntry) : Markup :=
  el "button" [attr "type" "button", attr "data-region-key" e.key] (esc e.label)

/-- A region in the list of regions. -/
def choice (e : MapEntry) : Markup := el "option" [attr "value" e.key] (esc e.label)

/-- The tile that chooses a region. -/
def tile (e : MapEntry) : Markup :=
  el "button"
    [attr "type" "button", cls "imap-state-tile", attr "data-region-key" e.key,
     attr "aria-label" e.label]
    (esc (Text.upper e.key))

/-- What is shown of a region. -/
def panel (e : MapEntry) : Markup :=
  Markup.lines
    [startTag "div"
      [cls "imap-panel", attr "data-region-key" e.key, attr "style" "display:none"],
     .indent 2 <| el "h3" [] (esc e.label),
     .indent 2 <| el "div" [cls "imap-panel-content"] e.content,
     endTag "div"]

end MapEntry

/-- A map: its regions, what is shown when no region is chosen, the region that is shown first, and
which controls there are. -/
structure RegionMap where
  first : MapEntry
  others : List MapEntry
  fallback : String
  start : Option String := none
  showTiles : Bool := true
  showList : Bool := true

namespace RegionMap

/-- The map of regions, of which there is at least one. -/
def ofEntries? (entries : List MapEntry) (fallback : String) : Option RegionMap :=
  match entries with
  | [] => none
  | first :: others => some { first, others, fallback }

/-- The regions of a map. -/
def entries (m : RegionMap) : List MapEntry := m.first :: m.others

/-- With fewer regions than this, tiles add nothing to the buttons. -/
def leastTiles : Nat := 8

/-- The tiles of a map. -/
def tiles (m : RegionMap) : Markup :=
  Markup.when (m.showTiles && leastTiles ≤ m.entries.length)
    (Markup.lines
      [startTag "div" [cls "imap-map-grid", attr "aria-label" "Interactive region map"],
       Markup.lines (m.entries.map MapEntry.tile),
       endTag "div"])

/-- The list of regions. -/
def list (m : RegionMap) : Markup :=
  let select := el "select" [attr "id" "imap-select"] (Markup.lines (m.entries.map MapEntry.choice))
  Markup.when m.showList
    (Markup.lines
      [startTag "label" [attr "for" "imap-select"] ++ esc "Region",
       .indent 6 select,
       .indent 4 <| endTag "label"])

/-- The key of the region that is shown first. -/
def startKey (m : RegionMap) : String :=
  (m.start.filter fun key => m.entries.any fun e => e.key == key).getD m.first.key

/-- What is shown when no region is chosen. -/
def fallbackPanel (m : RegionMap) : List Markup :=
  let hidden := if m.fallback.isEmpty then [attr "style" "display:none"] else []
  [.indent 4 <| startTag "div" ([cls "imap-fallback"] ++ hidden),
   .indent 6 <| el "h3" [] (esc "National View"),
   .indent 6 <| el "div" [cls "imap-panel-content"] (Html.sanitize m.fallback),
   .indent 4 <| endTag "div"]

/-- The map with its script. -/
def markup (m : RegionMap) : Markup :=
  Markup.lines
    ([startTag "section" [cls "imap-shell"],
      .indent 2 <| startTag "div" [cls "imap-controls"],
      .indent 4 <| el "div" [cls "imap-region-buttons"]
        (Markup.lines (m.entries.map MapEntry.button)),
      .indent 4 <| m.list,
      .indent 2 <| endTag "div",
      .indent 2 <| m.tiles,
      .indent 2 <| startTag "div" [cls "imap-panels"],
      Markup.lines (m.entries.map MapEntry.panel)] ++
      m.fallbackPanel ++
      [.indent 2 <| endTag "div",
       endTag "section",
       script (mapScript (Json.str m.startKey).inScript)])

end RegionMap

end StaticSite
