import StaticSite.Text.Case
import StaticSite.Widget.LeadForm
import StaticSite.Wizard.Payload

/-!
# Wizards

A wizard shows one panel for each of its steps, of which the first is visible, and a panel for the
results. Each field of a step has controls that bear its identifier as their name.

* `Wizard.panels` is the wizard, and `Wizard.code` its script.
* `Wizard.leadEndpoint?` is where the contact data of a reader is sent.
-/

namespace StaticSite

namespace WizardField

/-- One of several options to choose from. -/
def choiceLabel (f : WizardField) (className : String) (required : List Markup) (c : WizardChoice) :
    Markup :=
  let control := leaf "input"
    ([attr "type" f.kind.word, attr "name" f.id, attr "value" c.value] ++ required)
  el "label" [cls className] (control ++ el "span" [] (esc c.label))

/-- A field whose options are all shown. One without options is left out. -/
def choiceField (f : WizardField) (className : String) (required : List Markup) : Markup :=
  Markup.when (!f.choices.isEmpty)
    (Markup.lines
      ([startTag "fieldset" [cls "wizard-field", attr "data-field-id" f.id],
        .indent 2 <| el "legend" [] (esc f.label)] ++
        f.choices.map (fun c => .indent 2 (f.choiceLabel className required c)) ++
        [endTag "fieldset"]))

/-- A field with a list of options. -/
def listControl (f : WizardField) (identity : List Markup) : Markup :=
  let options := f.choices.map fun c => el "option" [attr "value" c.value] (esc c.label)
  Markup.lines
    [startTag "select" identity,
     .indent 4 <| el "option" [attr "value" ""] (esc "Select..."),
     .indent 4 <| Markup.joinWith "\n    " options,
     .indent 2 <| endTag "select"]

/-- A field with one control below its label. -/
def labelledField (f : WizardField) (control : Markup) : Markup :=
  Markup.lines
    [startTag "div" [cls "wizard-field", attr "data-field-id" f.id],
     .indent 2 <| el "label" [attr "for" ("wf-" ++ f.id)] (esc f.label),
     .indent 2 control,
     endTag "div"]

/-- The field of a step. -/
def markup (f : WizardField) : Markup :=
  let required := if f.required then [flag "required"] else []
  let identity := [attr "id" ("wf-" ++ f.id), attr "name" f.id]
  match f.kind with
  | .radio => f.choiceField "wizard-radio" required
  | .checkbox => f.choiceField "wizard-checkbox" []
  | .select => f.labelledField (f.listControl (identity ++ required))
  | .number =>
    f.labelledField (leaf "input"
      ([attr "type" "number"] ++ identity ++ [attr "inputmode" "numeric"] ++ required))
  | .text => f.labelledField (leaf "input" ([attr "type" "text"] ++ identity ++ required))

end WizardField

/-- The panel of a step, the last of which leads to the results. -/
def WizardStep.panel (copy : Wizard.ModeCopy) (total index : Nat) (s : WizardStep) : Markup :=
  let description := Markup.whenSome (s.description.filter fun d => !d.isEmpty) fun d =>
    el "p" [cls "wizard-step-desc"] (esc d)
  let back :=
    if index = 0 then el "span" [] .empty
    else el "button" [attr "type" "button", cls "wizard-back"] (esc "Back")
  let next := if index + 1 = total then copy.finalStepLabel else "Next"
  let hidden := if index = 0 then [] else [attr "style" "display:none"]
  Markup.lines
    [startTag "div"
      ([cls "wizard-step", attr "data-step-id" s.id, attr "data-step-index" (toString index)] ++
        hidden),
     .indent 2 <| el "h3" [cls "wizard-step-title"] (esc s.title),
     .indent 2 <| description,
     .indent 2 <| Markup.lines (s.fields.map WizardField.markup),
     .indent 2 <| startTag "div" [cls "wizard-nav"],
     .indent 4 <| back,
     .indent 4 <| el "button" [attr "type" "button", cls "wizard-next"] (esc next),
     .indent 2 <| endTag "div",
     endTag "div"]

namespace Wizard

/-- A step in the row of steps. -/
def progressSegment (index : Nat) (s : WizardStep) : Markup :=
  let active := if index = 0 then " active" else ""
  el "div" [cls ("wizard-progress-segment" ++ active), attr "data-index" (toString index)]
    (el "span" [cls "wizard-progress-dot"] (esc (toString (index + 1))) ++
      el "span" [cls "wizard-progress-label"] (esc s.title))

/-- The row of steps above a wizard. -/
def progressBar (steps : List WizardStep) : Markup :=
  Markup.lines
    [startTag "div" [cls "wizard-progress"],
     .indent 2 <| Markup.joinWith "\n  " (steps.mapIdx progressSegment),
     endTag "div"]

/-- The type of the control for a piece of contact data. -/
def contactType (name : String) : String :=
  if name == "email" then "email" else if name == "phone" then "tel" else "text"

/-- The field for a piece of contact data. -/
def contactField (name : String) : Markup :=
  let id := "lead-" ++ name
  el "div" [cls "wizard-field"]
    (el "label" [attr "for" id] (esc (Text.upper (Text.take 1 name) ++ Text.drop 1 name)) ++
      leaf "input"
        [attr "type" (contactType name), attr "id" id, attr "name" name, flag "required"])

/-- The form for contact data. It is disabled unless there is an address to send the data to. -/
def contactForm (copy : ModeCopy) (endpoint : Option String) (lead : WizardLead) : Markup :=
  let consent := el "label" []
    (leaf "input" [attr "type" "checkbox", flag "required"] ++ esc (" " ++ lead.consentText))
  let disabled := if endpoint.isSome then [] else [flag "disabled"]
  Markup.lines
    [startTag "div" [cls "wizard-lead-form", attr "style" "display:none"],
     .indent 2 <| el "h4" [] (esc copy.leadTitle),
     .indent 2 <| startTag "form"
      [attr "id" "wizard-lead-form", attr "action" (endpoint.getD "#"), attr "method" "POST"],
     .indent 4 <| Markup.joinWith "\n    " (lead.fields.map contactField),
     .indent 4 <| el "div" [cls "consent"] consent,
     .indent 4 <| el "button" ([attr "type" "submit"] ++ disabled) (esc copy.leadButton),
     .indent 2 <| endTag "form",
     endTag "div"]

/-- The place for a list of the answers. -/
def answerSummary : Markup :=
  Markup.lines
    [startTag "div" [cls "wizard-answer-summary", attr "style" "display:none"],
     .indent 2 <| el "h4" [] (esc "Selection Summary"),
     .indent 2 <| el "ul" [cls "wizard-answer-list"] .empty,
     endTag "div"]

/-- The panel of the results. -/
def resultsPanel (w : Wizard) (copy : ModeCopy) (endpoint : Option String) : Markup :=
  let score := el "div" [cls "wizard-quiz-score", attr "style" "display:none"] .empty
  Markup.lines
    [startTag "div" [cls "wizard-results", attr "style" "display:none"],
     .indent 2 <| el "h3" [cls "wizard-results-title"] (esc copy.resultsTitle),
     .indent 2 <| Markup.when copy.showScore score,
     .indent 2 <| el "div" [cls "wizard-results-cards"] .empty,
     .indent 2 <| Markup.when copy.showAnswerSummary answerSummary,
     .indent 2 <| Markup.whenSome w.collectLead (contactForm copy endpoint),
     .indent 2 <| el "button" [attr "type" "button", cls "wizard-restart"]
      (esc copy.restartLabel),
     endTag "div"]

/-- The panels of a wizard. -/
def panels (w : Wizard) (mode : Mode) (endpoint : Option String) : Markup :=
  let steps := w.steps.mapIdx (WizardStep.panel mode.copy w.steps.length)
  Markup.lines
    [startTag "div"
      [cls ("wizard-container wizard-mode-" ++ mode.word), attr "data-wizard-mode" mode.word],
     progressBar w.steps,
     Markup.lines steps,
     w.resultsPanel mode.copy endpoint,
     endTag "div"]

/-- Where contact data is sent, if it travels encrypted. -/
def leadEndpoint? (w : Wizard) : Option String :=
  w.collectLead.bind fun l => secureEndpoint? (some l.endpoint)

end Wizard

end StaticSite
