import StaticSite.Proofs.Html.Controls
import StaticSite.Proofs.Widget.Anchors
import StaticSite.Wizard.Navigation

/-!
# Completing the steps of a wizard

A step lets its reader go on when all its required fields are answered. The answers come from the
controls in the panel of the step, which are made field by field (`WizardStep.controls_panel`). A
field to choose in without anything to choose from has no control that gives an answer, so that a
step which requires it cannot be completed (`tierStep_cannot_be_completed`).

`WizardStep.canAnswer` tells which fields can be answered. Several fields may share an identifier:
their controls then write to one answer, one after the other. A list always writes, be it that
nothing is chosen, and a group of radio buttons only if one is picked. All fields that can be
answered can be answered together, so that a step can be completed exactly if each required field
can be answered (`WizardStep.completable_iff`).
-/

namespace StaticSite

open Markup Wizard

/-! ### The controls of a step -/

namespace WizardField

variable (f : WizardField)

/-- The parts of a form that a field makes. -/
def parts : List FormPart :=
  match f.kind with
  | .radio | .checkbox => f.choices.map fun c => .input f.kind.word f.id c.value
  | .select => .select f.id :: .option "" :: f.choices.map fun c => .option c.value
  | .number => [.input "number" f.id ""]
  | .text => [.input "text" f.id ""]

/-- **The controls of a field.** -/
def controls : List Control :=
  match f.kind with
  | .radio => f.choices.map fun c => .radio f.id c.value
  | .checkbox => f.choices.map fun c => .checkbox f.id c.value
  | .select => [.select f.id ("" :: f.choices.map (·.value))]
  | .number => [.number f.id]
  | .text => [.text f.id]

theorem controlsOf_parts : controlsOf f.parts = f.controls := by
  have hinputs (type : String) (cs : List WizardChoice) :
      controlsOf (cs.map fun c => .input type f.id c.value) =
        cs.map fun c => .ofInput type f.id c.value := by
    induction cs with
    | nil => rfl
    | cons c cs ih => exact congrArg (_ :: ·) ih
  have hoptions (cs : List WizardChoice) :
      leadingOptions (cs.map fun c => .option c.value) = cs.map (·.value) ∧
        controlsOf (cs.map fun c => .option c.value) = [] := by
    induction cs with
    | nil => exact ⟨rfl, rfl⟩
    | cons c cs ih => exact ⟨congrArg (c.value :: ·) ih.1, ih.2⟩
  unfold parts controls
  cases f.kind with
  | radio => exact hinputs _ _
  | checkbox => exact hinputs _ _
  | select => simp [controlsOf, leadingOptions, hoptions]
  | number => rfl
  | text => rfl

theorem beginsControl_parts : BeginsControl f.parts := by
  unfold parts
  cases f.kind <;> first | trivial | cases f.choices <;> trivial

@[simp]
theorem read_parts_choiceField (className : String) {required : List Markup}
    (h : required ∈ [[flag "required"], []]) :
    (f.choiceField className required).read WrittenTag.parts =
      f.choices.map fun c => .input f.kind.word f.id c.value := by
  have hlabel (c : WizardChoice) : (f.choiceLabel className required c).IsWhole ∧
      (f.choiceLabel className required c).read WrittenTag.parts =
        [.input f.kind.word f.id c.value] := by
    unfold choiceLabel
    simp only [List.mem_cons, List.not_mem_nil, or_false] at h
    rcases h with rfl | rfl <;>
      simp (disch := simp (disch := simp)) [read_append]
  unfold choiceField
  generalize f.choices = choices
  cases choices <;>
    simp (disch := simp (disch := simp [hlabel]) [hlabel]) [hlabel, List.flatMap_map,
      ← List.map_eq_flatMap]

theorem read_parts_labelledField {control : Markup} (h : control.IsWhole) :
    (f.labelledField control).read WrittenTag.parts = control.read WrittenTag.parts := by
  unfold labelledField
  simp (disch := simp (disch := simp) [h])

@[simp]
theorem read_parts_markup : f.markup.read WrittenTag.parts = f.parts := by
  unfold markup parts
  dsimp only
  cases hkind : f.kind with
  | radio =>
    dsimp only
    rw [f.read_parts_choiceField _ (by split <;> simp), hkind]
  | checkbox =>
    dsimp only
    rw [f.read_parts_choiceField _ (by simp), hkind]
  | select =>
    dsimp only
    rw [read_parts_labelledField]
    · unfold listControl
      split <;> simp (disch := simp (disch := simp)) [List.flatMap_map, ← List.map_eq_flatMap]
    · split <;> simp
  | number =>
    dsimp only
    rw [read_parts_labelledField] <;> split <;> simp (disch := simp (disch := simp))
  | text =>
    dsimp only
    rw [read_parts_labelledField] <;> split <;> simp (disch := simp (disch := simp))

end WizardField

namespace WizardStep

variable (s : WizardStep)

/-- **The controls in the panel of a step** are those of its fields. -/
theorem controls_panel (copy : ModeCopy) (total index : Nat) :
    (s.panel copy total index).controls = s.fields.flatMap WizardField.controls := by
  have hparts : (s.panel copy total index).read WrittenTag.parts =
      s.fields.flatMap WizardField.parts := by
    unfold panel
    dsimp only
    split <;> simp (disch := simp (disch := simp)) [List.flatMap_map]
  unfold Markup.controls
  rw [hparts, controlsOf_flatMap WizardField.beginsControl_parts]
  simp only [WizardField.controlsOf_parts]

end WizardStep

/-! ### Fields that can be answered -/

namespace WizardField

/-- Whether a field has a control. One whose options are all shown has none without options. -/
def isShown (f : WizardField) : Bool :=
  match f.kind with
  | .radio | .checkbox => !f.choices.isEmpty
  | .select | .number | .text => true

/-- Whether there can be an answer under an identifier behind a field, if there can be one before it
or not. A choice whose value is empty is no answer. -/
def answerable (id : String) (before : Bool) (f : WizardField) : Bool :=
  if f.id = id then
    match f.kind with
    | .radio => before || f.choices.any (·.value != "")
    | .checkbox => before || !f.choices.isEmpty
    | .select => f.choices.any (·.value != "")
    | .number | .text => true
  else before

/-- **Whether a field can be answered** by its own controls. -/
def canAnswer (f : WizardField) : Bool := f.answerable f.id false

theorem exists_name_eq_iff (f : WizardField) (name : String) :
    (∃ k ∈ f.controls, k.name = name) ↔ f.isShown = true ∧ f.id = name := by
  unfold controls isShown
  cases f.kind <;> cases f.choices <;> simp [Control.name]

/-- The controls of a field give the answers that the field can be given. -/
theorem answerableAfter_controls (id : String) (before : Bool) (f : WizardField) :
    answerableAfter id before f.controls = f.answerable id before := by
  -- Several radio buttons or boxes are written for one field, which has an answer once one of them
  -- gives it.
  have hradio (cs : List WizardChoice) (before : Bool) :
      answerableAfter id before (cs.map fun c => .radio f.id c.value) =
        if f.id = id then before || cs.any (·.value != "") else before := by
    induction cs generalizing before with
    | nil => split <;> simp [answerableAfter]
    | cons c cs ih =>
      rw [List.map_cons]
      refine (ih _).trans ?_
      unfold Control.answerable
      rw [Control.name]
      split <;> simp [Bool.or_assoc]
  have hcheckbox (cs : List WizardChoice) (before : Bool) :
      answerableAfter id before (cs.map fun c => .checkbox f.id c.value) =
        if f.id = id then before || !cs.isEmpty else before := by
    induction cs generalizing before with
    | nil => split <;> simp [answerableAfter]
    | cons c cs ih =>
      rw [List.map_cons]
      refine (ih _).trans ?_
      unfold Control.answerable
      rw [Control.name]
      split <;> simp
  unfold controls answerable
  cases f.kind with
  | radio => exact hradio _ _
  | checkbox => exact hcheckbox _ _
  | select =>
    simp [answerableAfter, Control.answerable, Control.name]
    rfl
  | number => rfl
  | text => rfl

end WizardField

namespace WizardStep

variable (s : WizardStep)

/-- **Whether there can be an answer under an identifier** when all fields of a step have given
theirs. -/
def canAnswer (id : String) : Bool := s.fields.foldl (WizardField.answerable id) false

theorem answerableAfter_controls (id : String) :
    answerableAfter id false (s.fields.flatMap WizardField.controls) = s.canAnswer id := by
  unfold answerableAfter canAnswer
  rw [List.foldl_flatMap]
  congr 1
  funext before f
  exact f.answerableAfter_controls id before

/-- Fields with identifiers of their own are answered by their own controls. -/
theorem canAnswer_of_nodup (hids : (s.fields.map (·.id)).Nodup) {f : WizardField}
    (hf : f ∈ s.fields) : s.canAnswer f.id = f.canAnswer := by
  -- Fields with another identifier change nothing, before the field and behind it.
  have hskip {gs : List WizardField} (h : ∀ g ∈ gs, g.id ≠ f.id) (before : Bool) :
      gs.foldl (WizardField.answerable f.id) before = before := by
    induction gs with
    | nil => rfl
    | cons g gs ih =>
      rw [List.forall_mem_cons] at h
      rw [List.foldl_cons, WizardField.answerable, if_neg h.1]
      exact ih h.2
  obtain ⟨before, after, hfields⟩ := List.append_of_mem hf
  rw [hfields, List.map_append, List.map_cons, List.nodup_append, List.nodup_cons] at hids
  obtain ⟨-, ⟨hafter, -⟩, hbefore⟩ := hids
  unfold canAnswer
  rw [hfields, List.foldl_append, List.foldl_cons, hskip, hskip]
  · rfl
  · exact fun g hg => hbefore _ (List.mem_map_of_mem hg) _ List.mem_cons_self
  · exact fun g hg heq => hafter (heq ▸ List.mem_map_of_mem hg)

/-- **Answers with which a step can be completed** can be given exactly if each required field can
be answered. -/
theorem exists_canGive_iff (copy : ModeCopy) (total index : Nat) :
    (∃ answers, (s.panel copy total index).CanGive answers ∧ stepIsValid s answers = true) ↔
      ∀ f ∈ s.fields, f.required = true → s.canAnswer f.id = true := by
  have hvalid (answers : Condition.Answers) : stepIsValid s answers = true ↔
      ∀ f ∈ s.fields, f.required = true → isAnswered (answers.lookup f.id) = true := by
    unfold stepIsValid
    rw [List.all_eq_true]
    simp only [List.mem_filter, and_imp]
  unfold Markup.CanGive
  rw [s.controls_panel]
  constructor
  · rintro ⟨answers, ⟨c, hc, rfl⟩, hall⟩ f hf hrequired
    rw [← s.answerableAfter_controls]
    exact hc.answerable (fun h => nomatch h) ((hvalid _).mp hall f hf hrequired)
  -- One way to fill in the step answers all its controls that can be answered, and so does for all
  -- required fields at once.
  · intro hall
    obtain ⟨c, hc, -, hcan⟩ := exists_collects (s.fields.flatMap WizardField.controls) []
    refine ⟨c.answers, ⟨c, hc, rfl⟩, (hvalid _).mpr fun f hf hrequired => ?_⟩
    refine hcan f.id List.not_mem_nil ?_
    rw [s.answerableAfter_controls]
    exact hall f hf hrequired

/-- **When a step can be completed.** Its panel has a control under just the identifiers of the
fields that are shown, and can give answers with which all required fields are answered exactly if
each of them can be answered, which it can by its own controls if no other field has its identifier.
-/
theorem completable_iff (copy : ModeCopy) (total index : Nat) :
    (∀ name, (∃ k ∈ (s.panel copy total index).controls, k.name = name) ↔
      ∃ f ∈ s.fields, f.isShown = true ∧ f.id = name) ∧
    ((∃ answers, (s.panel copy total index).CanGive answers ∧ stepIsValid s answers = true) ↔
      ∀ f ∈ s.fields, f.required = true → s.canAnswer f.id = true) ∧
    ((s.fields.map (·.id)).Nodup → ∀ f ∈ s.fields, s.canAnswer f.id = f.canAnswer) := by
  refine ⟨fun name => ?_, s.exists_canGive_iff copy total index,
    fun hids f hf => s.canAnswer_of_nodup hids hf⟩
  -- The controls of the panel are those of its fields, one after the other.
  rw [s.controls_panel]
  constructor
  · rintro ⟨k, hk, hname⟩
    obtain ⟨f, hf, hk⟩ := List.mem_flatMap.mp hk
    exact ⟨f, hf, (f.exists_name_eq_iff name).mp ⟨k, hk, hname⟩⟩
  · rintro ⟨f, hf, hshown⟩
    obtain ⟨k, hk, hname⟩ := (f.exists_name_eq_iff name).mpr hshown
    exact ⟨k, List.mem_flatMap.mpr ⟨f, hf, hk⟩, hname⟩

/-- A step that asks for a name, and for a size unless the reader does not mind. -/
def sizeStep : WizardStep where
  id := "size"
  title := "Size"
  description := none
  fields :=
    [{ id := "name", kind := .text, label := "Name", choices := [], required := true },
     { id := "size", kind := .select, label := "Size",
       choices := [⟨"s", "Small"⟩, ⟨"l", "Large"⟩], required := true },
     { id := "color", kind := .radio, label := "Color", choices := [], required := false }]
  nextStep := none
  branches := []

/-- A step with a field that is not shown can be completed if the field is not required. -/
theorem sizeStep_is_completable :
    (sizeStep.fields.map (·.id)).Nodup ∧
      (∀ f ∈ sizeStep.fields, sizeStep.canAnswer f.id = f.canAnswer) ∧
      ∃ answers, (sizeStep.panel Mode.wizard.copy 1 0).CanGive answers ∧
        stepIsValid sizeStep answers = true := by
  have hids : (sizeStep.fields.map (·.id)).Nodup := by decide
  obtain ⟨-, hcompletable, hown⟩ := sizeStep.completable_iff Mode.wizard.copy 1 0
  exact ⟨hids, hown hids, hcompletable.mpr (by decide)⟩

/-- A step that requires a choice and has nothing to choose from. -/
def tierStep : WizardStep where
  id := "tier"
  title := "Tier"
  description := none
  fields := [{ id := "tier", kind := .radio, label := "Tier", choices := [], required := true }]
  nextStep := none
  branches := []

/-- A required field without anything to choose from has no control, and no answers complete its
step. -/
theorem tierStep_cannot_be_completed :
    (∃ f ∈ tierStep.fields, f.required = true ∧
      ∀ k ∈ (tierStep.panel Mode.wizard.copy 1 0).controls, k.name ≠ f.id) ∧
    ¬∃ answers, (tierStep.panel Mode.wizard.copy 1 0).CanGive answers ∧
      stepIsValid tierStep answers = true := by
  rw [tierStep.exists_canGive_iff, tierStep.controls_panel]
  exact ⟨⟨_, List.mem_cons_self, rfl, fun _ h => nomatch h⟩,
    fun h => absurd (h _ List.mem_cons_self rfl) (by decide)⟩

end WizardStep

end StaticSite
