import StaticSite.Content.Outreach
import StaticSite.Html.Script
import StaticSite.Text.Find
import StaticSite.Widget.Scripts

/-!
# Contact forms

A contact form sends what a reader enters to an address. Personal data only travels encrypted:
`secureEndpoint?` drops every other address, and a form without an address is shipped disabled.

* `LeadForm.form` is the form, and `LeadForm.code` its script.
-/

namespace StaticSite

/-- The address of a form, if what is sent there is encrypted. -/
def secureEndpoint? (endpoint : Option String) : Option String :=
  endpoint.filter fun e => Text.startsWith e "https://"

namespace LeadField

/-- The field of a contact form, with a choice or a line of text. -/
def markup (f : LeadField) : Markup :=
  let required := if f.required then [flag "required"] else []
  let label := el "label" [attr "for" f.name] (esc f.label)
  let choices := f.options.map fun o => el "option" [attr "value" o] (esc o)
  let body :=
    if f.kind = .select && !f.options.isEmpty then
      [.indent 2 <| startTag "select" ([attr "id" f.name, attr "name" f.name] ++ required),
       .indent 4 <| el "option" [attr "value" ""] (esc "Select..."),
       .indent 4 <| Markup.concat choices,
       .indent 2 <| endTag "select"]
    else
      [.indent 2 <| leaf "input"
        ([attr "type" f.kind.word, attr "id" f.name, attr "name" f.name,
          attr "placeholder" f.label] ++ required)]
  Markup.lines
    ([startTag "div" [cls "lead-field"], .indent 2 label] ++ body ++ [endTag "div"])

end LeadField

/-- A field that only machines fill in. -/
def honeypot : Markup :=
  Markup.lines
    [startTag "div" [attr "style" "position:absolute;left:-9999px", attr "aria-hidden" "true"],
     .indent 2 <| el "label" [attr "for" "lead_hp_field"] (esc "Leave blank"),
     .indent 2 <| leaf "input"
      [attr "type" "text", attr "id" "lead_hp_field", attr "name" "lead_hp_field",
       attr "tabindex" "-1", attr "autocomplete" "off"],
     endTag "div"]

namespace LeadForm

/-- A form whose address is dropped unless it is secure. -/
def secured (f : LeadForm) : LeadForm := { f with endpoint := secureEndpoint? f.endpoint }

/-- The address of a form. -/
def endpoint? (f : LeadForm) : Option String := f.endpoint.filter fun e => !e.isEmpty

/-- The box by which a reader consents. -/
def consent (f : LeadForm) : Markup :=
  Markup.when (!f.consentText.isEmpty)
    (Markup.lines
      [startTag "div" [cls "consent"],
       .indent 2 <| el "label" []
        (leaf "input" [attr "type" "checkbox", attr "id" "lead-consent", flag "required"] ++
          esc (" " ++ f.consentText)),
       endTag "div"])

/-- The link to what a site says about privacy. -/
def privacyLink (f : LeadForm) : Markup :=
  Markup.whenSome (f.privacyPolicyUrl.filter fun u => !u.isEmpty) fun url =>
    el "p" [cls "privacy-link"]
      (el "a" [attr "href" url, attr "target" "_blank", attr "rel" "noopener"]
        (esc "Privacy Policy"))

/-- The form. One without fields is left out. -/
def form (f : LeadForm) : Markup :=
  Markup.when (!f.fields.isEmpty)
    (Markup.lines
      [startTag "section" [cls "lead-form-section"],
       .indent 2 <| startTag "form"
        [attr "id" "lead-form", cls "lead-form", attr "action" (f.endpoint?.getD "#"),
         attr "method" "POST"],
       .indent 4 <| honeypot,
       .indent 4 <| Markup.lines (f.fields.map LeadField.markup),
       .indent 4 <| f.consent,
       .indent 4 <| f.privacyLink,
       .indent 4 <| el "button" [attr "type" "submit", flag "disabled"] (esc "Submit"),
       .indent 4 <| el "div" [attr "id" "lead-form-message", attr "role" "status"] .empty,
       .indent 2 <| endTag "form",
       endTag "section"])

/-- What the script knows of a form. -/
def settings (f : LeadForm) : Json :=
  .obj [("endpoint", .str (f.endpoint.getD "")), ("successMessage", .str f.successMessage)]

/-- The script of a form. -/
def code (f : LeadForm) : Markup :=
  Markup.when (!f.fields.isEmpty) (script (leadScript f.settings.inScript))

end LeadForm

end StaticSite
