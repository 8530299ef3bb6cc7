import StaticSite.Style.Skin
import StaticSite.Style.Theme
import StaticSite.Text.Blank
import StaticSite.Text.Case

/-!
# The appearance of a site

`Appearance.resolve` chooses the theme and the skin of a site: the pair that is asked for, if both
are known; else the pair that belongs to its style; else the pair for its field of business; else
the defaults.
-/

namespace StaticSite

/-- Why a pair was chosen. -/
inductive AppearanceSource where
  | explicit
  | policy
  | fallback
deriving DecidableEq, Repr

/-- The word for a reason. -/
def AppearanceSource.word : AppearanceSource → String
  | .explicit => "explicit"
  | .policy => "policy_fallback"
  | .fallback => "global_fallback"

/-- A theme and a skin. -/
structure Appearance where
  theme : Theme
  skin : Skin
  source : AppearanceSource
deriving DecidableEq, Repr

/-- What a site says about its appearance. -/
structure AppearanceWish where
  theme : Option String := none
  skin : Option String := none
  style : Option String := none
  vertical : Option String := none
  niche : Option String := none
deriving Repr

namespace Appearance

/-- The pairs that belong to styles. -/
def ofStyle : List (String × Theme × Skin) :=
  [("navy-serif", .editorial, .slate),
   ("green-modern", .clean, .forest),
   ("medical-clean", .minimal, .slate),
   ("professional-blue", .editorial, .ocean),
   ("health-clean", .minimal, .forest),
   ("consumer-friendly", .bold, .ember),
   ("tech-modern", .bold, .midnight),
   ("trust-minimal", .minimal, .slate),
   ("hobby-vibrant", .bold, .ember),
   ("minimal-blue", .clean, .ocean),
   ("earth-inviting", .editorial, .ember),
   ("high-contrast-accessible", .bold, .slate),
   ("playful-modern", .bold, .coral),
   ("masculine-dark", .bold, .midnight),
   ("enthusiast-community", .clean, .ocean),
   ("clean-general", .clean, .slate)]

/-- The pairs for fields of business. -/
def ofField : List (String × Theme × Skin) :=
  [("legal", .editorial, .slate),
   ("insurance", .bold, .ocean),
   ("health", .clean, .forest),
   ("medicare", .clean, .forest),
   ("finance", .bold, .ocean),
   ("real_estate", .editorial, .ember),
   ("technology", .minimal, .midnight),
   ("auto", .bold, .midnight),
   ("home", .clean, .ember),
   ("education", .editorial, .slate),
   ("travel", .bold, .coral),
   ("pets", .bold, .ember),
   ("relationships", .bold, .coral),
   ("business", .editorial, .ocean),
   ("general", .clean, .slate),
   ("other", .clean, .slate)]

/-- Whether a character separates the words of a field of business. -/
def isKeySeparator (c : Char) : Bool := c == '-' || Text.isBlank c

/-- Each run of separators as an underscore; `within` says whether a run is in progress. -/
def joinKey : Bool → List Char → List Char
  | _, [] => []
  | within, c :: cs =>
    if isKeySeparator c then (if within then [] else ['_']) ++ joinKey true cs
    else c :: joinKey false cs

/-- The key of a field of business: small letters, with underscores between the words. -/
def fieldKey? (value : Option String) : Option String :=
  (value.map fun v =>
    String.ofList (joinKey false (Text.lowerList (Text.stripList v.toList)))).filter
      fun key => !key.isEmpty

/-- The pair that is asked for, if both are known. -/
def asked? (w : AppearanceWish) : Option (Theme × Skin) := do
  let theme ← Theme.words.lookup (Text.strip (← w.theme))
  let skin ← Skin.words.lookup (Text.strip (← w.skin))
  return (theme, skin)

/-- The pair that belongs to the style of a site. -/
def styled? (w : AppearanceWish) : Option (Theme × Skin) :=
  w.style.bind fun s => ofStyle.lookup (Text.strip s)

/-- The pair for a site's field of business; the wider field counts first. -/
def forField? (w : AppearanceWish) : Option (Theme × Skin) :=
  [w.vertical, w.niche].findSome? fun f => (fieldKey? f).bind fun key => ofField.lookup key

/-- Chooses a theme and a skin. -/
def resolve (w : AppearanceWish) : Appearance :=
  match (asked? w).orElse fun _ => styled? w with
  | some (theme, skin) => ⟨theme, skin, .explicit⟩
  | none =>
    match forField? w with
    | some (theme, skin) => ⟨theme, skin, .policy⟩
    | none => ⟨.default, .default, .fallback⟩

end Appearance

end StaticSite
