import StaticSite.Number.Binary64
import StaticSite.Style.Css
import StaticSite.Text.Blank
import StaticSite.Text.Digit
import StaticSite.Text.Quoted

/-!
# Skins

A skin gives a page its colours, as properties of the document. A skin that is not dark itself has
other colours for readers who prefer a dark screen.
-/

namespace StaticSite.Color

/-!
## Colours

A colour is written as a number sign and six hexadecimal digits. `lighten` mixes a colour with white
and `darken` with black; a text that is no such colour stays as it is. Parts are rounded to the
nearest whole number, halves to the even one.
-/

/-- The value of a hexadecimal digit. -/
def digitValue? (c : Char) : Option Nat :=
  if 'a' ≤ c ∧ c ≤ 'f' then some (c.toNat - 'a'.toNat + 10)
  else if 'A' ≤ c ∧ c ≤ 'F' then some (c.toNat - 'A'.toNat + 10)
  else Text.digitValue? c

/-- The number written by hexadecimal digits, of which there is at least one. -/
def digitsValue? (cs : List Char) : Option Nat :=
  if cs.isEmpty then none
  else cs.foldl (fun n c => n.bind fun n => (digitValue? c).map (16 * n + ·)) (some 0)

/-- The number written by hexadecimal digits, perhaps with a sign or blanks around it. -/
def part? (cs : List Char) : Option Int :=
  match Text.stripList cs with
  | '-' :: ds => (digitsValue? ds).map fun n => -(n : Int)
  | '+' :: ds => (digitsValue? ds).map Int.ofNat
  | ds => (digitsValue? ds).map Int.ofNat

/-- The parts of a colour: red, green and blue. -/
def parts? (color : String) : Option (List Int) :=
  match color.toList.dropWhile (· == '#') with
  | [a, b, c, d, e, f] => [[a, b], [c, d], [e, f]].mapM part?
  | _ => none

/-- The nearest whole number, of two the even one. -/
def roundEven (q : Rat) : Int :=
  let low := q.floor
  let rest := q - low
  if rest < 1 / 2 then low
  else if 1 / 2 < rest then low + 1
  else if low % 2 = 0 then low else low + 1

/-- A number as two hexadecimal digits, or more if need be. A sign counts as a digit. -/
def partText (n : Int) : List Char :=
  let ds := Nat.toDigits 16 n.natAbs
  if n < 0 then '-' :: List.replicate (1 - ds.length) '0' ++ ds
  else List.replicate (2 - ds.length) '0' ++ ds

/-- A colour whose parts have been changed. -/
def change (f : Int → Binary64) (color : String) : String :=
  match parts? color with
  | none => color
  | some parts => String.ofList ('#' :: parts.flatMap fun p => partText (roundEven (f p).toRat))

/-- A colour mixed with white. -/
def lighten (color : String) (amount : Binary64) : String :=
  change (fun p => Binary64.ofRat p + Binary64.ofRat (255 - p) * amount) color

/-- A colour mixed with black. -/
def darken (color : String) (amount : Binary64) : String :=
  change (fun p => Binary64.ofRat p * (Binary64.ofNat 1 - amount)) color

end StaticSite.Color

namespace StaticSite

/-! ## The skins -/

/-- A skin. -/
inductive Skin where
  | slate
  | ocean
  | forest
  | ember
  | midnight
  | coral
deriving DecidableEq, Repr

/-- The colours of a skin. -/
structure SkinTokens where
  primary : String
  primaryHover : String
  secondary : String
  background : String
  surface : String
  text : String
  mutedText : String
  accent : String
  border : String
  strongBorder : String
  success : String
  warning : String
  error : String
  heroBackground : String
  heroText : String
  headerBorder : String
  footerBackground : String
  footerText : String
  badgeBackground : String
  badgeText : String
  link : String
  linkHover : String
deriving DecidableEq, Repr

namespace Skin

/-- The skins with their words. -/
def words : List (String × Skin) :=
  [("slate", .slate),
   ("ocean", .ocean),
   ("forest", .forest),
   ("ember", .ember),
   ("midnight", .midnight),
   ("coral", .coral)]

/-- The word for a skin. -/
def word : Skin → String
  | .slate => "slate"
  | .ocean => "ocean"
  | .forest => "forest"
  | .ember => "ember"
  | .midnight => "midnight"
  | .coral => "coral"

/-- The skin of a site that asks for none. -/
def default : Skin := .slate

/-- The skin with a word; for an unknown word the default. -/
def named (s : String) : Skin := (words.lookup s).getD default

/-- The colours of a skin. -/
def tokens : Skin → SkinTokens
  | .slate =>
    { primary := "#1e293b"
      primaryHover := "#334155"
      secondary := "#475569"
      background := "#ffffff"
      surface := "#f8fafc"
      text := "#1e293b"
      mutedText := "#64748b"
      accent := "#2563eb"
      border := "#e2e8f0"
      strongBorder := "#cbd5e1"
      success := "#16a34a"
      warning := "#f59e0b"
      error := "#dc2626"
      heroBackground := "#f9fafb"
      heroText := "#111827"
      headerBorder := "#e5e7eb"
      footerBackground := "#1e293b"
      footerText := "#94a3b8"
      badgeBackground := "#1e293b"
      badgeText := "#ffffff"
      link := "#2563eb"
      linkHover := "#1d4ed8" }
  | .ocean =>
    { primary := "#1e3a5f"
      primaryHover := "#0f2541"
      secondary := "#2563eb"
      background := "#f8fbff"
      surface := "#eff6ff"
      text := "#1e293b"
      mutedText := "#64748b"
      accent := "#2563eb"
      border := "#bfdbfe"
      strongBorder := "#93c5fd"
      success := "#16a34a"
      warning := "#f59e0b"
      error := "#dc2626"
      heroBackground := "#1e3a5f"
      heroText := "#ffffff"
      headerBorder := "#1e3a5f"
      footerBackground := "#1e3a5f"
      footerText := "#94a3b8"
      badgeBackground := "#1d4ed8"
      badgeText := "#ffffff"
      link := "#2563eb"
      linkHover := "#1d4ed8" }
  | .forest =>
    { primary := "#047857"
      primaryHover := "#065f46"
      secondary := "#059669"
      background := "#f0fdf4"
      surface := "#f7fef9"
      text := "#14532d"
      mutedText := "#4b7a5c"
      accent := "#10b981"
      border := "#bbf7d0"
      strongBorder := "#86efac"
      success := "#16a34a"
      warning := "#f59e0b"
      error := "#dc2626"
      heroBackground := "#f0fdf4"
      heroText := "#065f46"
      headerBorder := "#10b981"
      footerBackground := "#14532d"
      footerText := "#86efac"
      badgeBackground := "#22c55e"
      badgeText := "#ffffff"
      link := "#059669"
      linkHover := "#047857" }
  | .ember =>
    { primary := "#b45309"
      primaryHover := "#92400e"
      secondary := "#d97706"
      background := "#fffbf5"
      surface := "#fef3c7"
      text := "#292524"
      mutedText := "#78716c"
      accent := "#f59e0b"
      border := "#fed7aa"
      strongBorder := "#fdba74"
      success := "#16a34a"
      warning := "#f59e0b"
      error := "#dc2626"
      heroBackground := "linear-gradient(135deg,#fef3c7,#fed7aa)"
      heroText := "#78350f"
      headerBorder := "#f59e0b"
      footerBackground := "#78350f"
      footerText := "#fde68a"
      badgeBackground := "#f59e0b"
      badgeText := "#78350f"
      link := "#d97706"
      linkHover := "#b45309" }
  | .midnight =>
    { primary := "#38bdf8"
      primaryHover := "#7dd3fc"
      secondary := "#f59e0b"
      background := "#0f172a"
      surface := "#1e293b"
      text := "#e2e8f0"
      mutedText := "#94a3b8"
      accent := "#38bdf8"
      border := "#334155"
      strongBorder := "#475569"
      success := "#22c55e"
      warning := "#fbbf24"
      error := "#f87171"
      heroBackground := "#1e293b"
      heroText := "#f1f5f9"
      headerBorder := "#334155"
      footerBackground := "#020617"
      footerText := "#64748b"
      badgeBackground := "#38bdf8"
      badgeText := "#0f172a"
      link := "#38bdf8"
      linkHover := "#7dd3fc" }
  | .coral =>
    { primary := "#7c3aed"
      primaryHover := "#6d28d9"
      secondary := "#fb923c"
      background := "#fffaf2"
      surface := "#fef7ee"
      text := "#2d1f45"
      mutedText := "#6b5a83"
      accent := "#fb7185"
      border := "#fed7aa"
      strongBorder := "#fdba74"
      success := "#16a34a"
      warning := "#f59e0b"
      error := "#dc2626"
      heroBackground := "linear-gradient(135deg,#fde68a,#fca5a5,#c4b5fd)"
      heroText := "#3b0764"
      headerBorder := "#fb923c"
      footerBackground := "#3b0764"
      footerText := "#c4b5fd"
      badgeBackground := "#fb7185"
      badgeText := "#ffffff"
      link := "#7c3aed"
      linkHover := "#6d28d9" }

/-- The colour of an element under the pointer. -/
def hovered (color : String) : String := Color.darken color (Binary64.ofRat (15 / 100))

/-- The colour of the ground behind a message. -/
def ground (color : String) : String := Color.lighten color (Binary64.ofRat (88 / 100))

/-- The properties for a colour that tells a state. -/
def stateProperties (name color : String) : List (String × String) :=
  [(name, color), (name ++ "-light", ground color), (name ++ "-hover", hovered color)]

/-- The properties of a skin. -/
def properties (s : Skin) : List (String × String) :=
  let k := s.tokens
  [("primary", k.primary),
   ("primary-hover", k.primaryHover),
   ("secondary", k.secondary),
   ("bg", k.background),
   ("bg-surface", k.surface),
   ("text", k.text),
   ("text-muted", k.mutedText),
   ("accent", k.accent),
   ("accent-hover", hovered k.accent),
   ("border", k.border),
   ("border-strong", k.strongBorder)] ++
  stateProperties "success" k.success ++ stateProperties "warning" k.warning ++
  stateProperties "error" k.error ++
  [("hero-bg", k.heroBackground),
   ("hero-text", k.heroText),
   ("header-border", k.headerBorder),
   ("footer-bg", k.footerBackground),
   ("footer-text", k.footerText),
   ("badge-bg", k.badgeBackground),
   ("badge-text", k.badgeText),
   ("link", k.link),
   ("link-hover", k.linkHover)]

/-- The properties as they stand in a style sheet. -/
def css (s : Skin) : String :=
  Css.rootProperties (s.properties.map fun (name, value) => ("color-" ++ name, value))

/-- Whether a skin is dark itself. -/
def isDark : Skin → Bool
  | .midnight => true
  | _ => false

/-- The properties on a dark screen. -/
def darkProperties : List (String × String) :=
  [("bg", "#0f172a"),
   ("bg-surface", "#1e293b"),
   ("text", "#e2e8f0"),
   ("text-muted", "#94a3b8"),
   ("border", "#334155"),
   ("border-strong", "#475569"),
   ("hero-bg", "#1e293b"),
   ("hero-text", "#f1f5f9"),
   ("footer-bg", "#020617"),
   ("footer-text", "#64748b"),
   ("header-border", "#334155"),
   ("badge-bg", "#38bdf8"),
   ("badge-text", "#0f172a"),
   ("success-light", "#064e3b"),
   ("warning-light", "#78350f"),
   ("error-light", "#7f1d1d")]

/-- The rules for a dark screen, for a skin that is not dark itself. -/
def darkCss (s : Skin) : String :=
  if s.isDark then ""
  else
    let properties := darkProperties.map fun (name, value) =>
      "  --color-" ++ name ++ ":" ++ value ++ ";"
    "\n" ++ Css.block "@media(prefers-color-scheme:dark)"
      ([":root\x7b"] ++ properties ++ ["\x7d", Css.rule "img" ["opacity:0.9"]])

end Skin

end StaticSite
