import StaticSite.Condition.Script
import StaticSite.Html.Script
import StaticSite.Wizard.Controller
import StaticSite.Wizard.Mode

/-!
# What the script of a wizard knows

The script of a wizard is told its steps, its rules and its scoring as JSON. `code` is the script
with these settings; it holds the evaluator of conditions and the engine of wizards.
-/

namespace StaticSite.Wizard

/-- A link as JSON. -/
def linkJson (l : Option CtaLink) : Json :=
  (l.map fun l => Json.obj [("text", .str l.text), ("url", .str l.url)]).getD .null

/-- Numbers under names as JSON. -/
def numbersJson (xs : List (String × Binary64)) : Json :=
  .obj (xs.map fun (name, x) => (name, .float x))

/-- A step as the script knows it. -/
def stepJson (s : WizardStep) : Json :=
  .obj
    [("id", .str s.id), ("nextStep", Json.ofText? s.nextStep),
     ("branches", .arr (s.branches.map fun b =>
       .obj [("condition", .str b.condition), ("goTo", .str b.goTo)])),
     ("fields", .arr (s.fields.map fun f =>
       .obj [("id", .str f.id), ("label", .str f.label), ("required", .bool f.required)]))]

/-- A rule as the script knows it. -/
def ruleJson (r : ResultRule) : Json :=
  .obj
    [("condition", .str r.condition), ("title", .str r.title), ("body", .str r.body),
     ("cta", linkJson r.cta)]

/-- A band as the script knows it. -/
def bandJson (b : ScoreBand) : Json :=
  .obj
    [("min", .float b.min), ("max", .float b.max), ("label", .str b.label),
     ("description", Json.ofText? b.description)]

/-- An outcome as the script knows it. -/
def outcomeJson (o : ScoreOutcome) : Json :=
  .obj
    [("min", .float o.min), ("max", .float o.max), ("title", .str o.title), ("body", .str o.body),
     ("cta", linkJson o.cta)]

/-- A scoring as the script knows it. -/
def scoringJson (s : Scoring) : Json :=
  .obj
    [("method", Json.ofText? (s.table.method.map (·.word))),
     ("weights", numbersJson s.table.weights),
     ("valueMap", .obj (s.table.valueMap.map fun (name, xs) => (name, numbersJson xs))),
     ("bands", .arr (s.bands.map bandJson)), ("outcomes", .arr (s.outcomes.map outcomeJson))]

/-- What the script knows of a wizard. -/
def settings (w : Wizard) (mode : Mode) (embedded : Bool) (domain : String) : Json :=
  let copy := mode.copy
  .obj
    [("mode", .str mode.word), ("resultTemplate", .str w.resultTemplate.word),
     ("steps", .arr (w.steps.map stepJson)), ("rules", .arr (w.resultRules.map ruleJson)),
     ("scoring", (w.scoring.map scoringJson).getD .null),
     ("copy", .obj [("emptyTitle", .str copy.emptyTitle), ("emptyBody", .str copy.emptyBody)]),
     ("embed", .bool embedded), ("domain", .str domain)]

/-- The script of a wizard. -/
def code (w : Wizard) (mode : Mode) (embedded : Bool) (domain : String) : Markup :=
  script (Condition.evaluatorScript ++ engineScript ++
    controllerScript (settings w mode embedded domain).inScript)

end StaticSite.Wizard
