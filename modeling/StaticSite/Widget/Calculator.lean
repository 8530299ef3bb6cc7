import StaticSite.Content.Calculator
import StaticSite.Html.Script
import StaticSite.Number.Notation
import StaticSite.Text.Blank
import StaticSite.Text.Case

/-!
# Calculators

A calculator shows a field for each input and a place for each output. Its formula is one of those
that the script knows; the name that is configured only chooses among them.

* `Calculator.form` is the form, and `Calculator.code` its script.
* `formulaKey` is the form in which names of formulas are compared.

A calculator may stand on a page more than once, so the identifiers of its fields begin with a
marker of their own.
-/

namespace StaticSite

/-!
## Calculators in the browser

The script of a calculator. It finds the formula by its name, or by the names of the inputs, and
shows the results whenever an input changes.
-/

/-- What the script of a calculator does. -/
def calculatorCode : String := Text.unlines
  ["  var prefix = cfg.prefix;",
   "  function pmt(rate, nper, pv) \x7b",
   "    if (rate === 0) return pv / nper;",
   "    var x = Math.pow(1 + rate, nper);",
   "    return (pv * rate * x) / (x - 1);",
   "  \x7d",
   "  function fv(rate, nper, pmtVal, pv) \x7b",
   "    if (rate === 0) return -(pv + pmtVal * nper);",
   "    var x = Math.pow(1 + rate, nper);",
   "    return -(pv * x + pmtVal * ((x - 1) / rate));",
   "  \x7d",
   "  var FORMULAS = \x7b",
   "    mortgage_payment: function(v) \x7b",
   "      var monthlyRate = (v.interest_rate / 100) / 12;",
   "      var months = (v.loan_term || 30) * 12;",
   "      var mp = pmt(monthlyRate, months, v.loan_amount || 0);",
   "      return \x7b monthly_payment: mp, total_paid: mp * months, total_interest: mp * months " ++
     "- (v.loan_amount || 0) \x7d;",
   "    \x7d,",
   "    compound_interest: function(v) \x7b",
   "      var principal = v.principal || v.initial_investment || 0;",
   "      var rate = (v.interest_rate || v.annual_rate || 0) / 100;",
   "      var years = v.years || v.time_period || 10;",
   "      var n = v.compounds_per_year || 12;",
   "      var contribution = v.monthly_contribution || 0;",
   "      var total = fv(rate / n, n * years, -contribution, -principal);",
   "      return \x7b future_value: total, total_contributions: principal + contribution * n * y" ++
     "ears, total_interest: total - principal - contribution * n * years \x7d;",
   "    \x7d,",
   "    savings_goal: function(v) \x7b",
   "      var goal = v.savings_goal || v.target || 0;",
   "      var r = ((v.interest_rate || v.annual_rate || 0) / 100) / 12;",
   "      var periods = 12 * (v.years || v.time_period || 10);",
   "      var monthly = r === 0 ? goal / periods : (goal * r) / (Math.pow(1 + r, periods) - 1);",
   "      return \x7b monthly_savings: monthly, total_contributed: monthly * periods, interest_e" ++
     "arned: goal - monthly * periods \x7d;",
   "    \x7d,",
   "    loan_amortization: function(v) \x7b",
   "      var principal = v.loan_amount || v.principal || 0;",
   "      var rate = (v.interest_rate || 0) / 100 / 12;",
   "      var months = (v.loan_term || 30) * 12;",
   "      var mp = pmt(rate, months, principal);",
   "      var firstInterest = principal * rate;",
   "      return \x7b monthly_payment: mp, first_interest: firstInterest, first_principal: mp - " ++
     "firstInterest, total_paid: mp * months, total_interest: mp * months - principal \x7d;",
   "    \x7d,",
   "    roi: function(v) \x7b",
   "      var initial = v.initial_investment || 0;",
   "      var gain = (v.final_value || 0) - initial;",
   "      var roiVal = initial !== 0 ? gain / initial : 0;",
   "      return \x7b net_gain: gain, roi_percent: roiVal, annualized_roi: v.years ? Math.pow(1 " ++
     "+ roiVal, 1 / v.years) - 1 : roiVal \x7d;",
   "    \x7d",
   "  \x7d;",
   "  var computeFn = FORMULAS.hasOwnProperty(cfg.formula) ? FORMULAS[cfg.formula] : null;",
   "  if (!computeFn) \x7b",
   "    var ids = cfg.inputs.join(',');",
   "    if (ids.indexOf('loan_amount') >= 0 && ids.indexOf('interest_rate') >= 0) computeFn = FO" ++
     "RMULAS.mortgage_payment;",
   "    else if (ids.indexOf('principal') >= 0 || ids.indexOf('initial_investment') >= 0) comput" ++
     "eFn = FORMULAS.compound_interest;",
   "    else if (ids.indexOf('savings_goal') >= 0 || ids.indexOf('target') >= 0) computeFn = FOR" ++
     "MULAS.savings_goal;",
   "  \x7d",
   "  if (!computeFn) \x7b",
   "    var msg = document.getElementById('calc-error-msg');",
   "    if (msg) msg.style.display = 'block';",
   "    computeFn = function() \x7b return \x7b\x7d; \x7d;",
   "  \x7d",
   "  function getVal(id) \x7b",
   "    var el = document.getElementById(prefix + id);",
   "    return el ? parseFloat(el.value) || 0 : 0;",
   "  \x7d",
   "  function formatValue(val, fmt, dec) \x7b",
   "    if (isNaN(val) || !isFinite(val)) return '—';",
   "    if (fmt === 'currency') return new Intl.NumberFormat('en-US', \x7b style: 'currency', cu" ++
     "rrency: 'USD', minimumFractionDigits: dec, maximumFractionDigits: dec \x7d).format(val);",
   "    if (fmt === 'percent') return (val * 100).toFixed(dec) + '%';",
   "    return new Intl.NumberFormat('en-US', \x7b minimumFractionDigits: dec, maximumFractionDi" ++
     "gits: dec \x7d).format(val);",
   "  \x7d",
   "  function calculate() \x7b",
   "    var vals = \x7b\x7d;",
   "    cfg.inputs.forEach(function(id) \x7b vals[id] = getVal(id); \x7d);",
   "    var results;",
   "    try \x7b",
   "      results = computeFn(vals);",
   "    \x7d catch (e) \x7b",
   "      cfg.outputs.forEach(function(o) \x7b",
   "        var el = document.getElementById(prefix + o.id);",
   "        if (el) \x7b el.textContent = 'Error'; el.title = 'Calculation failed'; \x7d",
   "      \x7d);",
   "      return;",
   "    \x7d",
   "    cfg.outputs.forEach(function(o) \x7b",
   "      var el = document.getElementById(prefix + o.id);",
   "      if (el && results[o.id] !== undefined) el.textContent = formatValue(results[o.id], o.f" ++
     "ormat, o.decimals);",
   "    \x7d);",
   "    if (cfg.embed && window.parent !== window) \x7b",
   "      window.parent.postMessage(\x7b type: 'embed-result', source: cfg.domain, values: vals," ++
     " results: results \x7d, '*');",
   "    \x7d",
   "  \x7d",
   "  cfg.inputs.forEach(function(id) \x7b",
   "    var el = document.getElementById(prefix + id);",
   "    if (!el) return;",
   "    el.addEventListener('input', function() \x7b",
   "      var display = document.getElementById(prefix + id + '_display');",
   "      if (display) display.textContent = el.value;",
   "      calculate();",
   "    \x7d);",
   "  \x7d);",
   "  calculate();",
   ""]

/-- The script of a calculator with given settings. -/
def calculatorScript (settings : String) : String :=
  "\n  var cfg = " ++ settings ++ ";\n" ++ calculatorCode

/-! ## Forms -/

/-- The options of a select element. -/
def optionTags (options : List (String × String)) : Markup :=
  Markup.concat (options.map fun (value, label) => el "option" [attr "value" value] (esc label))

namespace CalculatorInput

/-- The lines of a field of a calculator. -/
def field (contents : List Markup) : Markup :=
  Markup.lines
    ([startTag "div" [cls "calc-field"]] ++ contents.map (.indent 2) ++ [endTag "div"])

/-- The attributes that every field has. -/
def identity (i : CalculatorInput) (marker : String) : List Markup :=
  [attr "id" (marker ++ i.id), attr "name" i.id, cls "calc-input"]

/-- The label of a field. -/
def labelFor (i : CalculatorInput) (marker : String) (contents : Markup) : Markup :=
  el "label" [attr "for" (marker ++ i.id)] contents

/-- A field with a choice. -/
def choiceField (i : CalculatorInput) (marker : String) : Markup :=
  let options := i.choices.map fun c => (c.value.plainText, c.label)
  field
    [i.labelFor marker (esc i.label), el "select" (i.identity marker) (optionTags options)]

/-- A field with a slider. Without bounds it goes from zero to a hundred, in steps of one. -/
def sliderField (i : CalculatorInput) (marker : String) : Markup :=
  let low := i.min.getD (.ofNat 0)
  let high := i.max.getD (.ofNat 100)
  let step := i.step.getD (.ofNat 1)
  let start := (i.initial.getD low).plainText
  let display := el "output" [attr "id" (marker ++ i.id ++ "_display")] (esc start)
  field
    [i.labelFor marker (esc (i.label ++ ": ") ++ display),
     leaf "input"
      ([attr "type" "range"] ++ i.identity marker ++
        [attr "min" low.plainText, attr "max" high.plainText, attr "step" step.plainText,
         attr "value" start])]

/-- A field for a number. -/
def numberField (i : CalculatorInput) (marker : String) : Markup :=
  let given (name : String) (x : Option Binary64) : Markup :=
    attr? name (x.map Binary64.plainText)
  field
    [i.labelFor marker (esc i.label),
     leaf "input"
      ([attr "type" "number"] ++ i.identity marker ++
        [given "min" i.min, given "max" i.max, given "step" i.step, given "value" i.initial])]

/-- The field of an input. A choice without options is a number. -/
def markup (i : CalculatorInput) (marker : String) : Markup :=
  match i.kind with
  | .select => if i.choices.isEmpty then i.numberField marker else i.choiceField marker
  | .range => i.sliderField marker
  | .number => i.numberField marker

end CalculatorInput

/-- The place of an output. -/
def CalculatorOutput.markup (o : CalculatorOutput) (marker : String) : Markup :=
  Markup.lines
    [startTag "div" [cls "calc-result-item"],
     .indent 2 <| el "span" [cls "calc-result-label"] (esc o.label),
     .indent 2 <| el "output" [attr "id" (marker ++ o.id), cls "calc-result-value"] (esc "—"),
     endTag "div"]

/-- The key of a formula: small letters and underscores, with underscores for all else. -/
def formulaKey (name : Option String) : String :=
  let keep (c : Char) : Char := if ('a' ≤ c && c ≤ 'z') || c == '_' then c else '_'
  String.ofList ((Text.lowerList (name.getD "").toList).map keep)

namespace Calculator

/-- What is shown when no formula is known. -/
def missingFormula : String :=
  "This calculator's formula is not yet configured. Results may not display correctly."

/-- How the results are computed, and what is assumed. -/
def methodology? (c : Calculator) : Option Markup :=
  let method := c.methodology.filter fun m => !m.isEmpty
  if method.isNone && c.assumptions.isEmpty then none
  else
    let assumptions := Markup.when (!c.assumptions.isEmpty)
      (el "ul" [] (Markup.concat (c.assumptions.map fun a => el "li" [] (esc a))))
    some (Markup.lines
      [startTag "details" [cls "calc-methodology"],
       .indent 2 <| el "summary" [] (esc "Methodology & Assumptions"),
       .indent 2 <| Markup.whenSome method fun m => el "p" [] (esc m),
       .indent 2 <| assumptions,
       endTag "details"])

/-- The form of a calculator. One without inputs has none. -/
def form (c : Calculator) (marker : String) : Markup :=
  Markup.when (!c.inputs.isEmpty)
    (Markup.lines
      ([startTag "section" [cls "calc-form", attr "id" "calculator"],
        .indent 2 <| el "h2" [] (esc "Calculator"),
        .indent 2 <| startTag "form" [attr "onsubmit" "return false;"],
        Markup.lines (c.inputs.map fun i => i.markup marker),
        .indent 2 <| endTag "form",
        .indent 2 <| el "div"
          [attr "id" "calc-error-msg", cls "calc-error", attr "style" "display:none"]
          (esc missingFormula),
        .indent 2 <| startTag "div" [cls "calc-results"],
        Markup.lines (c.outputs.map fun o => o.markup marker),
        .indent 2 <| endTag "div",
        endTag "section"] ++ c.methodology?.toList))

/-- What the script knows of an output. -/
def outputSettings (o : CalculatorOutput) : Json :=
  .obj [("id", .str o.id), ("format", .str o.format.word), ("decimals", .int o.decimals)]

/-- What the script knows of a calculator. -/
def settings (c : Calculator) (marker : String) (embedded : Bool) (domain : String) : Json :=
  .obj
    [("prefix", .str marker), ("formula", .str (formulaKey c.formula)),
     ("inputs", .arr (c.inputs.map fun i => .str i.id)),
     ("outputs", .arr (c.outputs.map outputSettings)),
     ("embed", .bool embedded), ("domain", .str domain)]

/-- The script of a calculator. -/
def code (c : Calculator) (marker : String) (embedded : Bool) (domain : String) : Markup :=
  script (calculatorScript (c.settings marker embedded domain).inScript)

end Calculator

end StaticSite
