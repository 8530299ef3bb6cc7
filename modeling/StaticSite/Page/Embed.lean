import StaticSite.Page.Contents
import StaticSite.Style.Css

/-!
# Pages inside other pages

A calculator or a wizard can be shown on other sites, as a page of its own with styles of its own.
The page tells the page around it how high it is.
-/

namespace StaticSite

open Css

/-- The styles of an embedded page. -/
def embedStyles : String := sheet
  [rule "*" ["margin:0", "padding:0", "box-sizing:border-box"],
   rule "body"
     ["font-family:system-ui,-apple-system,sans-serif", "padding:1rem", "color:#1e293b",
      "line-height:1.5"],
   rule "h2" ["font-size:1.25rem", "margin-bottom:1rem"],
   rule "h3,h4" ["margin:0.5rem 0"],
   rule "label"
     ["display:block", "font-weight:600", "margin-bottom:0.25rem", "font-size:0.875rem"],
   rule ("input[type=number],input[type=text],input[type=email],input[type=tel]," ++
     "select")
     ["width:100%", "padding:0.5rem", "border:1px solid #cbd5e1", "border-radius:0.375rem",
      "font-size:1rem"],
   rule ".calc-field,.wizard-field" ["margin-bottom:0.75rem"],
   rule ".wizard-radio,.wizard-checkbox" ["display:flex", "gap:0.5rem", "font-weight:400"],
   rule "fieldset" ["border:none", "margin-bottom:0.75rem"],
   rule "legend" ["font-weight:600", "margin-bottom:0.25rem"],
   rule "button"
     ["background:#2563eb", "color:#fff", "border:none", "padding:0.625rem 1.5rem",
      "border-radius:0.375rem", "font-weight:600", "cursor:pointer", "margin-top:0.5rem"],
   rule "button:hover" ["background:#1d4ed8"],
   rule "button:disabled" ["opacity:0.5", "cursor:not-allowed"],
   rule ".calc-results,.wizard-results"
     ["margin-top:1rem", "background:#eff6ff", "border:1px solid #bfdbfe", "border-radius:0.5rem",
      "padding:1rem"],
   rule ".calc-result-item"
     ["display:flex", "justify-content:space-between", "padding:0.5rem 0",
      "border-bottom:1px solid #dbeafe"],
   rule ".calc-result-item:last-child" ["border-bottom:none"],
   rule ".calc-result-value" ["font-size:1.125rem", "font-weight:700", "color:#1d4ed8"],
   rule ".calc-error" ["color:#b91c1c", "margin-bottom:0.75rem"],
   rule ".wizard-progress"
     ["display:flex", "gap:0.5rem", "margin-bottom:1rem", "font-size:0.75rem"],
   rule ".wizard-progress-segment" ["opacity:0.5"],
   rule ".wizard-progress-segment.active" ["opacity:1"],
   rule ".wizard-nav" ["display:flex", "justify-content:space-between"],
   rule ".wizard-result-card"
     ["background:#fff", "border:1px solid #dbeafe", "border-radius:0.375rem", "padding:0.75rem",
      "margin-bottom:0.5rem"],
   rule ".wizard-shake" ["animation:shake 0.4s"],
   nested "@keyframes shake" 
     [rule "25%" ["transform:translateX(-4px)"],
      rule "75%" ["transform:translateX(4px)"]]]

/-- The script that reports the height of an embedded page. -/
def heightScript : String := Text.unlines
  ["  var lastH = 0;",
   "  function notifyHeight() \x7b",
   "    var h = document.body.scrollHeight;",
   "    if (h !== lastH) \x7b lastH = h; window.parent.postMessage(\x7b type: 'embed-resize', he" ++
     "ight: h \x7d, '*'); \x7d",
   "  \x7d",
   "  if (window.ResizeObserver) new ResizeObserver(notifyHeight).observe(document.body);",
   "  notifyHeight();"]

/-- What the identifiers on an embedded page begin with. -/
def embedMarker : String := "e-"

/-- What is shown in place of a missing widget. -/
def missingWidget : Markup := el "p" [] (esc "Widget content not available for embedding.")

/-- Whether articles of a type can be embedded. -/
def ContentType.isEmbeddable (t : ContentType) : Bool := t = .calculator || t.wizardMode?.isSome

/-- The widget of an article and its script. -/
def embeddedWidget (a : Article) (domain : String) : Markup × Markup :=
  match a.contentType.wizardMode? with
  | none =>
    match a.payloads.calculator.filter fun c => !c.inputs.isEmpty with
    | some c => (c.form embedMarker, c.code embedMarker true domain)
    | none => (missingWidget, .empty)
  | some mode =>
    match a.payloads.wizard.filter fun w => !w.steps.isEmpty with
    | some w => (w.panels mode w.leadEndpoint?, Wizard.code w mode true domain)
    | none => (missingWidget, .empty)

/-- The page that shows the widget of an article on other sites, for the types that can be
embedded. -/
def embedPage? (a : Article) (domain : String) : Option Markup :=
  if !a.contentType.isEmbeddable then none
  else
    let (widget, code) := embeddedWidget a domain
    some (Markup.rows
      [html "<!DOCTYPE html>",
       startTag "html" [attr "lang" "en"],
       startTag "head" [],
       leaf "meta" [attr "charset" "UTF-8"],
       leaf "meta"
        [attr "name" "viewport", attr "content" "width=device-width, initial-scale=1.0"],
       leaf "meta" [attr "name" "robots", attr "content" "noindex"],
       el "title" [] (esc a.title),
       el "style" [] (html ("\n" ++ embedStyles)),
       endTag "head",
       startTag "body" [],
       el "h2" [] (esc a.title),
       widget,
       code,
       script heightScript,
       endTag "body",
       endTag "html"])

end StaticSite
