import StaticSite.Style.Css

/-!
# Themes

A theme gives a page its fonts, corners, shadows and spacing, as properties of the document.
-/

namespace StaticSite

/-- A theme. -/
inductive Theme where
  | clean
  | editorial
  | bold
  | minimal
deriving DecidableEq, Repr

/-- What a theme fixes. -/
structure ThemeTokens where
  headingFont : String
  bodyFont : String
  monoFont : String
  fontSize : String
  lineHeight : String
  smallRadius : String
  mediumRadius : String
  largeRadius : String
  fullRadius : String
  smallShadow : String
  mediumShadow : String
  largeShadow : String
  spacing : String
  containerWidth : String
  borderWidth : String
  transition : String
deriving DecidableEq, Repr

namespace Theme

/-- The themes with their words. -/
def words : List (String × Theme) :=
  [("clean", .clean), ("editorial", .editorial), ("bold", .bold), ("minimal", .minimal)]

/-- The word for a theme. -/
def word : Theme → String
  | .clean => "clean"
  | .editorial => "editorial"
  | .bold => "bold"
  | .minimal => "minimal"

/-- The theme of a site that asks for none. -/
def default : Theme := .clean

/-- The theme with a word; for an unknown word the default. -/
def named (s : String) : Theme := (words.lookup s).getD default

/-- What a theme fixes. -/
def tokens : Theme → ThemeTokens
  | .clean =>
    { headingFont := "Public Sans, system-ui, sans-serif"
      bodyFont := "Public Sans, system-ui, sans-serif"
      monoFont := "ui-monospace, monospace"
      fontSize := "1rem"
      lineHeight := "1.72"
      smallRadius := "0.375rem"
      mediumRadius := "0.5rem"
      largeRadius := "0.75rem"
      fullRadius := "999px"
      smallShadow := "0 1px 3px rgba(0,0,0,0.08)"
      mediumShadow := "0 4px 12px rgba(0,0,0,0.1)"
      largeShadow := "0 10px 28px rgba(0,0,0,0.12)"
      spacing := "1.6rem"
      containerWidth := "1100px"
      borderWidth := "1px"
      transition := "0.2s" }
  | .editorial =>
    { headingFont := "Merriweather, Georgia, serif"
      bodyFont := "Source Sans Pro, system-ui, sans-serif"
      monoFont := "ui-monospace, monospace"
      fontSize := "1.05rem"
      lineHeight := "1.78"
      smallRadius := "0.25rem"
      mediumRadius := "0.375rem"
      largeRadius := "0.5rem"
      fullRadius := "999px"
      smallShadow := "0 2px 4px rgba(0,0,0,0.06)"
      mediumShadow := "0 4px 12px rgba(0,0,0,0.08)"
      largeShadow := "0 8px 24px rgba(0,0,0,0.1)"
      spacing := "1.75rem"
      containerWidth := "900px"
      borderWidth := "1px"
      transition := "0.2s" }
  | .bold =>
    { headingFont := "DM Sans, system-ui, sans-serif"
      bodyFont := "Inter, system-ui, sans-serif"
      monoFont := "JetBrains Mono, ui-monospace, monospace"
      fontSize := "1rem"
      lineHeight := "1.7"
      smallRadius := "0.5rem"
      mediumRadius := "0.75rem"
      largeRadius := "1.25rem"
      fullRadius := "999px"
      smallShadow := "0 2px 8px rgba(0,0,0,0.1)"
      mediumShadow := "0 6px 18px rgba(0,0,0,0.12)"
      largeShadow := "0 12px 36px rgba(0,0,0,0.15)"
      spacing := "1.5rem"
      containerWidth := "1200px"
      borderWidth := "2px"
      transition := "0.15s" }
  | .minimal =>
    { headingFont := "system-ui, -apple-system, sans-serif"
      bodyFont := "system-ui, -apple-system, sans-serif"
      monoFont := "ui-monospace, monospace"
      fontSize := "1.05rem"
      lineHeight := "1.8"
      smallRadius := "0.25rem"
      mediumRadius := "0.375rem"
      largeRadius := "0.5rem"
      fullRadius := "999px"
      smallShadow := "none"
      mediumShadow := "0 2px 6px rgba(0,0,0,0.06)"
      largeShadow := "0 4px 12px rgba(0,0,0,0.08)"
      spacing := "1.45rem"
      containerWidth := "680px"
      borderWidth := "1px"
      transition := "0.2s" }

/-- The address of the fonts of a theme, unless the reader's own fonts serve. -/
def fontUrl? : Theme → Option String
  | .clean =>
    some ("https://fonts.googleapis.com/css2?family=Public+Sans:ital,wght@0,400;" ++
      "0,500;0,600;0,700;0,800;1,400&display=swap")
  | .editorial =>
    some ("https://fonts.googleapis.com/css2?family=Merriweather:ital,wght@0,400;" ++
      "0,700;0,900;1,400&family=Source+Sans+3:ital,wght@0,400;0,500;0,600;" ++
      "0,700;1,400&display=swap")
  | .bold =>
    some ("https://fonts.googleapis.com/css2?family=DM+Sans:ital,wght@0,400;" ++
      "0,500;0,600;0,700;0,800;1,400&family=Inter:wght@400;500;600;700&" ++
      "display=swap")
  | .minimal => none

/-- The properties of a theme. -/
def css (t : Theme) : String :=
  let k := t.tokens
  Css.rootProperties
    [("font-heading", k.headingFont),
     ("font-body", k.bodyFont),
     ("font-mono", k.monoFont),
     ("font-size-base", k.fontSize),
     ("line-height", k.lineHeight),
     ("radius-sm", k.smallRadius),
     ("radius-md", k.mediumRadius),
     ("radius-lg", k.largeRadius),
     ("radius-full", k.fullRadius),
     ("shadow-sm", k.smallShadow),
     ("shadow-md", k.mediumShadow),
     ("shadow-lg", k.largeShadow),
     ("spacing-unit", k.spacing),
     ("container-max", k.containerWidth),
     ("border-width", k.borderWidth),
     ("transition-speed", k.transition)]

end Theme

end StaticSite
