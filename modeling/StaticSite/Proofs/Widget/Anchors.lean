import StaticSite.Proofs.Html.Anchors
import StaticSite.Widget.Calculator
import StaticSite.Widget.Checklist
import StaticSite.Widget.Comparison
import StaticSite.Widget.Costs
import StaticSite.Widget.Infographic
import StaticSite.Widget.LeadForm
import StaticSite.Widget.Regions
import StaticSite.Widget.Wizard

/-!
# The anchors of widgets

The identifiers in a widget are fixed or made of the names in its payload, and it links to the
addresses in its payload. Each widget has its list of anchors here, in the order of the page, and a
lemma that its markup has these. What prose brings along is left as it was read.
-/

namespace StaticSite

open Markup

/-! ### Calculators -/

/-- The anchors of a field: that of a slider shows its value beside it. -/
def CalculatorInput.anchors (i : CalculatorInput) (marker : String) : List Anchor :=
  (if i.kind = .range then [.name (marker ++ i.id ++ "_display")] else []) ++
    [.name (marker ++ i.id)]

@[simp]
theorem CalculatorInput.hasAnchors_markup (i : CalculatorInput) (marker : String) :
    (i.markup marker).HasAnchors (i.anchors marker) := by
  have hoptions (options : List (String × String)) : (optionTags options).HasAnchors [] := by
    unfold optionTags
    simp (disch := simp (disch := simp))
  have hnumber : (i.numberField marker).HasAnchors [.name (marker ++ i.id)] := by
    unfold numberField field labelFor identity
    simp (disch := simp (disch := simp)) [List.flatMap_map]
  unfold markup CalculatorInput.anchors
  cases i.kind with
  | select =>
    dsimp only
    split
    · exact hnumber
    · unfold choiceField field labelFor identity
      simp (disch := simp (disch := simp)) [hoptions]
  | range =>
    unfold sliderField field labelFor identity
    simp (disch := simp (disch := simp)) [read_append]
  | number => exact hnumber

@[simp]
theorem CalculatorOutput.hasAnchors_markup (o : CalculatorOutput) (marker : String) :
    (o.markup marker).HasAnchors [.name (marker ++ o.id)] := by
  unfold markup
  simp (disch := simp (disch := simp))

namespace Calculator

/-- The anchors of a calculator. -/
def anchors (c : Calculator) (marker : String) : List Anchor :=
  if c.inputs.isEmpty then []
  else
    [.name "calculator"] ++ c.inputs.flatMap (·.anchors marker) ++ [.name "calc-error-msg"] ++
      c.outputs.map fun o => .name (marker ++ o.id)

theorem hasAnchors_of_methodology?_eq {c : Calculator} {m : Markup} (h : c.methodology? = some m) :
    m.HasAnchors [] := by
  unfold methodology? at h
  dsimp only at h
  split at h
  · cases h
  · cases h
    simp (disch := simp (disch := simp))

@[simp]
theorem hasAnchors_form (c : Calculator) (marker : String) :
    (c.form marker).HasAnchors (c.anchors marker) := by
  unfold form Calculator.anchors
  cases hm : c.methodology? with
  | none => simp (disch := simp (disch := simp)) [List.flatMap_map, ← List.map_eq_flatMap]
  | some m =>
    have hanchors := hasAnchors_of_methodology?_eq hm
    simp (disch := simp (disch := simp) [hanchors])
      [hanchors, List.flatMap_map, ← List.map_eq_flatMap]

@[simp]
theorem hasAnchors_code (c : Calculator) (marker : String) (embedded : Bool) (domain : String) :
    (c.code marker embedded domain).HasAnchors [] := by
  unfold code
  simp (disch := simp (disch := simp))

end Calculator

/-! ### Comparisons -/

/-- The link to an option, if it has an address. -/
def ComparisonOption.anchors (o : ComparisonOption) : List Anchor := o.url?.toList.map .link

@[simp]
theorem hasAnchors_valueCell (text : String) : (valueCell text).HasAnchors [] := by
  unfold valueCell
  simp (disch := simp (disch := simp))

theorem hasAnchors_of_scoreCell_eq_ok {kind : ColumnKind} {score : Option Score} {m : Markup}
    (h : scoreCell kind score = .ok m) : m.HasAnchors [] := by
  unfold scoreCell at h
  split at h
  · cases h
    simp (disch := simp (disch := simp))
  · split at h
    · obtain ⟨text, -, h⟩ := exists_of_bind_eq_ok h
      cases h
      simp (disch := simp (disch := simp))
    · cases h
      exact hasAnchors_valueCell _
  · cases h
    exact hasAnchors_valueCell _

namespace ComparisonOption

theorem hasAnchors_of_row_eq_ok {columns : List ComparisonColumn} {o : ComparisonOption}
    {m : Markup} (h : o.row columns = .ok m) : m.HasAnchors o.anchors := by
  obtain ⟨scores, hscores, h⟩ := exists_of_bind_eq_ok h
  obtain ⟨hwhole, hread⟩ :=
    hasAnchors_of_mapM_eq_ok _ hscores fun _ _ => hasAnchors_of_scoreCell_eq_ok
  cases h
  unfold ComparisonOption.anchors visitLink
  simp (disch := simp (disch := simp) [eq_true hwhole])
    [read_append, hread, ← List.map_eq_flatMap]

theorem hasAnchors_of_ratingLine_eq_ok {o : ComparisonOption} {m : Markup}
    (h : o.ratingLine = .ok m) : m.HasAnchors [] := by
  unfold ratingLine at h
  split at h
  · cases h
    simp
  · obtain ⟨text, -, h⟩ := exists_of_bind_eq_ok h
    cases h
    simp (disch := simp (disch := simp))

@[simp]
theorem hasAnchors_entryList (o : ComparisonOption) (key heading : String) :
    (o.entryList key heading).HasAnchors [] := by
  unfold entryList
  simp (disch := simp (disch := simp)) [read_append, List.flatMap_map]

theorem hasAnchors_of_card_eq_ok {o : ComparisonOption} {m : Markup} (h : o.card = .ok m) :
    m.HasAnchors o.anchors := by
  obtain ⟨rating, hrating, h⟩ := exists_of_bind_eq_ok h
  have hstars := hasAnchors_of_ratingLine_eq_ok hrating
  cases Except.ok.inj h
  unfold ComparisonOption.anchors visitLink
  simp (disch := simp (disch := simp) [hstars]) [read_append, hstars, ← List.map_eq_flatMap]

end ComparisonOption

@[simp]
theorem ComparisonColumn.hasAnchors_heading (c : ComparisonColumn) : c.heading.HasAnchors [] := by
  unfold heading sortIndicator
  split <;> simp (disch := simp (disch := simp)) [read_append]

namespace Comparison

/-- The anchors of the table of a comparison. -/
def tableAnchors (c : Comparison) : List Anchor :=
  .name "comparison-table" :: c.options.flatMap ComparisonOption.anchors

theorem hasAnchors_of_table_eq_ok {c : Comparison} {m : Markup} (h : c.table = .ok m) :
    m.HasAnchors c.tableAnchors := by
  obtain ⟨rows, hrows, h⟩ := exists_of_bind_eq_ok h
  obtain ⟨hwhole, hread⟩ :=
    hasAnchors_of_mapM_eq_ok _ hrows fun _ _ => ComparisonOption.hasAnchors_of_row_eq_ok
  cases h
  unfold tableAnchors
  simp (disch := simp (disch := simp) [eq_true hwhole]) [hread, List.flatMap_map]

@[simp]
theorem hasAnchors_sorter (c : Comparison) : c.sorter.HasAnchors [] := by
  unfold sorter
  simp (disch := simp (disch := simp))

theorem hasAnchors_of_verdictNote_eq {c : Comparison} {m : Markup} (h : c.verdictNote = some m) :
    m.HasAnchors [] := by
  obtain ⟨verdict, -, rfl⟩ := Option.map_eq_some_iff.mp h
  simp (disch := simp (disch := simp)) [read_append]

end Comparison

/-! ### Costs -/

@[simp]
theorem hasAnchors_costCard (s : CostSpan Binary64) : (costCard s).HasAnchors [] := by
  unfold costCard costFigure
  simp (disch := simp (disch := simp)) [read_append]

@[simp]
theorem hasAnchors_costCards (spans : List (CostSpan Binary64)) :
    (costCards spans).HasAnchors [] := by
  unfold costCards
  simp (disch := simp (disch := simp)) [List.flatMap_map]

@[simp]
theorem hasAnchors_factorCard (f : CostFactor) : (factorCard f).HasAnchors [] := by
  unfold factorCard
  simp (disch := simp (disch := simp))

@[simp]
theorem hasAnchors_factorGrid (factors : List CostFactor) : (factorGrid factors).HasAnchors [] := by
  unfold factorGrid
  simp (disch := simp (disch := simp)) [read_append, List.flatMap_map]

/-! ### Contact forms -/

@[simp]
theorem LeadField.hasAnchors_markup (f : LeadField) : f.markup.HasAnchors [.name f.name] := by
  unfold markup
  split <;> split <;> simp (disch := simp (disch := simp))

@[simp]
theorem hasAnchors_honeypot : honeypot.HasAnchors [.name "lead_hp_field"] := by
  unfold honeypot
  simp (disch := simp (disch := simp))

namespace LeadForm

/-- The address of what a site says about privacy. -/
def privacyAddress? (f : LeadForm) : Option String :=
  f.privacyPolicyUrl.filter fun u => !u.isEmpty

/-- The anchors of a form. The identifiers of its fields are their names. -/
def anchors (f : LeadForm) : List Anchor :=
  if f.fields.isEmpty then []
  else
    [.name "lead-form", .name "lead_hp_field"] ++ f.fields.map (fun field => .name field.name) ++
      (if f.consentText.isEmpty then [] else [.name "lead-consent"]) ++
      f.privacyAddress?.toList.map .link ++ [.name "lead-form-message"]

@[simp]
theorem hasAnchors_consent (f : LeadForm) :
    f.consent.HasAnchors (if f.consentText.isEmpty then [] else [.name "lead-consent"]) := by
  unfold consent
  simp (disch := simp (disch := simp)) [read_append]

@[simp]
theorem hasAnchors_privacyLink (f : LeadForm) :
    f.privacyLink.HasAnchors (f.privacyAddress?.toList.map .link) := by
  unfold privacyLink privacyAddress?
  simp (disch := simp (disch := simp)) [← List.map_eq_flatMap]

@[simp]
theorem hasAnchors_form (f : LeadForm) : f.form.HasAnchors f.anchors := by
  unfold form LeadForm.anchors
  simp (disch := simp (disch := simp)) [List.flatMap_map, ← List.map_eq_flatMap]

@[simp]
theorem hasAnchors_code (f : LeadForm) : f.code.HasAnchors [] := by
  unfold code
  simp (disch := simp (disch := simp))

end LeadForm

/-! ### Maps and texts for regions -/

namespace MapEntry

variable (e : MapEntry)

@[simp]
theorem hasAnchors_button : e.button.HasAnchors [] := by
  unfold button
  simp (disch := simp (disch := simp))

@[simp]
theorem hasAnchors_choice : e.choice.HasAnchors [] := by
  unfold choice
  simp (disch := simp (disch := simp))

@[simp]
theorem hasAnchors_tile : e.tile.HasAnchors [] := by
  unfold tile
  simp (disch := simp (disch := simp))

@[simp]
theorem hasAnchors_panel : e.panel.HasAnchors e.content.anchors := by
  unfold panel
  simp (disch := simp (disch := simp))

end MapEntry

namespace RegionMap

variable (m : RegionMap)

/-- The anchors of a map: those of its list and of its contents. -/
def anchors : List Anchor :=
  (if m.showList then [.name "imap-select"] else []) ++
    m.entries.flatMap (fun e => e.content.anchors) ++ (Html.sanitize m.fallback).anchors

@[simp]
theorem hasAnchors_tiles : m.tiles.HasAnchors [] := by
  unfold tiles
  simp (disch := simp (disch := simp)) [List.flatMap_map]

@[simp]
theorem hasAnchors_list :
    m.list.HasAnchors (if m.showList then [.name "imap-select"] else []) := by
  unfold list
  simp (disch := simp (disch := simp)) [read_append, List.flatMap_map]

@[simp]
theorem hasAnchors_markup : m.markup.HasAnchors m.anchors := by
  unfold markup fallbackPanel RegionMap.anchors
  split <;> simp (disch := simp (disch := simp)) [List.flatMap_map]

end RegionMap

@[simp]
theorem hasAnchors_regionBlock (key : String) (r : GeoRegion) :
    (regionBlock key r).HasAnchors (Html.sanitize r.content).anchors := by
  unfold regionBlock
  simp (disch := simp (disch := simp))

@[simp]
theorem hasAnchors_otherRegions (fallback : String) :
    (otherRegions fallback).HasAnchors (Html.sanitize fallback).anchors := by
  unfold otherRegions
  simp (disch := simp (disch := simp))

/-- The anchors of texts for regions. -/
def GeoGuide.anchors (g : GeoGuide) : List Anchor :=
  if g.regions.isEmpty then []
  else
    g.regions.flatMap (fun (_, r) => (Html.sanitize r.content).anchors) ++
      (Html.sanitize g.fallback).anchors

@[simp]
theorem GeoGuide.hasAnchors_texts (g : GeoGuide) : g.texts.HasAnchors g.anchors := by
  unfold texts GeoGuide.anchors
  simp (disch := simp (disch := simp))

/-! ### Checklists, questions and infographics -/

@[simp]
theorem hasAnchors_checklistItem (index : Nat) (heading : String) (text : Markup) :
    (checklistItem index heading text).HasAnchors
      (.name ("checklist-step-" ++ toString index) :: text.anchors) := by
  unfold checklistItem
  simp (disch := simp (disch := simp))

theorem hasAnchors_checklist {items : List Markup} (h : ∀ m ∈ items, m.IsWhole) :
    (checklist items).HasAnchors
      (.name "checklist-progress" :: .name "checklist-completed-count" ::
        items.flatMap Markup.anchors) := by
  have hcounter (total : String) :
      (el "span" [attr "id" "checklist-completed-count"] (esc "0") ++ esc " of " ++
        el "span" [] (esc total) ++ esc " completed").HasAnchors
          [.name "checklist-completed-count"] := by
    simp (disch := simp (disch := simp (disch := simp))) [read_append]
  unfold checklist
  simp (disch := simp (disch := simp) [eq_true h, hcounter]) [hcounter]

@[simp]
theorem hasAnchors_question {attrs : List Markup} (h : ∀ a ∈ attrs, a.IsAttribute)
    (heading : String) (answer : Markup) : (question attrs heading answer).HasAnchors
      ((attrs.flatMap Markup.attributes).flatMap Anchor.ofAttribute ++ answer.anchors) := by
  unfold question
  simp (disch := simp (disch := simp [eq_true h]) [eq_true h])

@[simp]
theorem hasAnchors_filterChip (className group label : String) :
    (filterChip className group label).HasAnchors [] := by
  unfold filterChip
  simp (disch := simp (disch := simp))

@[simp]
theorem hasAnchors_filterChips (items : List InfographicItem) :
    (filterChips items).HasAnchors [] := by
  have hchips (groups : List String) : (lines (filterChip "infographic-chip active" "all" "All" ::
      groups.map fun g => filterChip "infographic-chip" g g)).HasAnchors [] := by
    simp (disch := simp (disch := simp)) [List.flatMap_map]
  exact hchips _

@[simp]
theorem InfographicItem.hasAnchors_card (i : InfographicItem) :
    i.card.HasAnchors [.name ("ig-" ++ i.id)] := by
  unfold card
  simp (disch := simp (disch := simp))

theorem hasAnchors_infographic (items : List InfographicItem) :
    (infographic items).HasAnchors
      (.name "infographic-sort" :: items.map fun i => .name ("ig-" ++ i.id)) := by
  unfold infographic
  simp (disch := simp (disch := simp)) [read_append, List.flatMap_map, ← List.map_eq_flatMap]

/-! ### Wizards -/

namespace WizardField

variable (f : WizardField)

/-- The anchors of a field. Only a field with one control gives it an identifier. -/
def anchors : List Anchor :=
  match f.kind with
  | .radio | .checkbox => []
  | .select | .number | .text => [.name ("wf-" ++ f.id)]

@[simp]
theorem hasAnchors_choiceField (className : String) {required : List Markup}
    (h : required ∈ [[flag "required"], []]) :
    (f.choiceField className required).HasAnchors [] := by
  have hlabel (c : WizardChoice) : (f.choiceLabel className required c).HasAnchors [] := by
    unfold choiceLabel
    simp only [List.mem_cons, List.not_mem_nil, or_false] at h
    rcases h with rfl | rfl <;>
      simp (disch := simp (disch := simp)) [read_append]
  unfold choiceField
  simp (disch := simp (disch := simp [hlabel]) [hlabel]) [hlabel, List.flatMap_map]

@[simp]
theorem hasAnchors_listControl {identity : List Markup} (h : ∀ a ∈ identity, a.IsAttribute) :
    (f.listControl identity).HasAnchors
      ((identity.flatMap Markup.attributes).flatMap Anchor.ofAttribute) := by
  unfold listControl
  simp (disch := simp (disch := simp [eq_true h]) [eq_true h])

@[simp]
theorem hasAnchors_labelledField (control : Markup) (h : control.IsWhole) :
    (f.labelledField control).HasAnchors control.anchors := by
  unfold labelledField
  simp (disch := simp (disch := simp) [h])

@[simp]
theorem hasAnchors_markup : f.markup.HasAnchors f.anchors := by
  unfold markup WizardField.anchors
  dsimp only
  cases f.kind with
  | radio => exact f.hasAnchors_choiceField _ (by split <;> simp)
  | checkbox => exact f.hasAnchors_choiceField _ (by simp)
  | select => dsimp only; split <;> simp (disch := simp (disch := simp))
  | number => dsimp only; split <;> simp (disch := simp (disch := simp))
  | text => dsimp only; split <;> simp (disch := simp (disch := simp))

end WizardField

@[simp]
theorem WizardStep.hasAnchors_panel (copy : Wizard.ModeCopy) (total index : Nat) (s : WizardStep) :
    (s.panel copy total index).HasAnchors (s.fields.flatMap WizardField.anchors) := by
  unfold panel
  dsimp only
  split <;> simp (disch := simp (disch := simp)) [List.flatMap_map]

namespace Wizard

variable (w : Wizard)

@[simp]
theorem hasAnchors_progressSegment (index : Nat) (s : WizardStep) :
    (progressSegment index s).HasAnchors [] := by
  unfold progressSegment
  simp (disch := simp (disch := simp)) [read_append]

@[simp]
theorem hasAnchors_progressBar (steps : List WizardStep) : (progressBar steps).HasAnchors [] := by
  obtain ⟨hwhole, hread⟩ := hasAnchors_mapIdx _ hasAnchors_progressSegment steps
  unfold progressBar
  generalize steps.mapIdx progressSegment = segments at hwhole hread ⊢
  simp (disch := simp (disch := simp [eq_true hwhole]) [eq_true hwhole]) [hread]

/-- The anchors of the form for contact data. -/
def contactAnchors (lead : WizardLead) : List Anchor :=
  .name "wizard-lead-form" :: lead.fields.map fun name => .name ("lead-" ++ name)

@[simp]
theorem hasAnchors_contactField (name : String) :
    (contactField name).HasAnchors [.name ("lead-" ++ name)] := by
  unfold contactField
  simp (disch := simp (disch := simp)) [read_append]

@[simp]
theorem hasAnchors_contactForm (copy : ModeCopy) (endpoint : Option String) (lead : WizardLead) :
    (contactForm copy endpoint lead).HasAnchors (contactAnchors lead) := by
  have hconsent : (el "label" [] (leaf "input" [attr "type" "checkbox", flag "required"] ++
      esc (" " ++ lead.consentText))).HasAnchors [] := by
    simp (disch := simp (disch := simp)) [read_append]
  unfold contactForm contactAnchors
  dsimp only
  split <;>
    simp (disch := simp (disch := simp)) [hconsent, List.flatMap_map, ← List.map_eq_flatMap]

@[simp]
theorem hasAnchors_answerSummary : answerSummary.HasAnchors [] := by
  unfold answerSummary
  simp (disch := simp (disch := simp))

@[simp]
theorem hasAnchors_resultsPanel (copy : ModeCopy) (endpoint : Option String) :
    (w.resultsPanel copy endpoint).HasAnchors (w.collectLead.toList.flatMap contactAnchors) := by
  unfold resultsPanel
  simp (disch := simp (disch := simp))

/-- The anchors of a wizard: those of the fields of its steps, and of its form. -/
def anchors : List Anchor :=
  w.steps.flatMap (fun s => s.fields.flatMap WizardField.anchors) ++
    w.collectLead.toList.flatMap contactAnchors

@[simp]
theorem hasAnchors_panels (mode : Mode) (endpoint : Option String) :
    (w.panels mode endpoint).HasAnchors w.anchors := by
  obtain ⟨hwhole, hread⟩ :=
    hasAnchors_mapIdx _ (WizardStep.hasAnchors_panel mode.copy w.steps.length) w.steps
  unfold panels Wizard.anchors
  dsimp only
  generalize w.steps.mapIdx (WizardStep.panel mode.copy w.steps.length) = steps at hwhole hread ⊢
  simp (disch := simp (disch := simp [eq_true hwhole]) [eq_true hwhole]) [hread]

@[simp]
theorem hasAnchors_code (mode : Mode) (embedded : Bool) (domain : String) :
    (code w mode embedded domain).HasAnchors [] := by
  unfold code
  simp (disch := simp (disch := simp))

end Wizard

end StaticSite
