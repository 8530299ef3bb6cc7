import StaticSite.Proofs.Condition.References
import StaticSite.Wizard.Navigation

/-!
# What moves a reader through a wizard

The next step and the results depend on the answers by the conditions of the branches and of the
rules, and a condition reads only the answers that its references name. From a step of the wizard
the way leads to a step or to the results behind the last one (`nextIndexFrom_cases`). An index that
counts from the end is not turned into a position first, so that the step after it may have an index
that counts from the end too.
-/

namespace StaticSite.Wizard

open Condition (AgreeOn Answers holds_eq_of_agreeOn keysOf)

variable {a b : Answers}

/-! ### Conditions of branches and rules -/

theorem matchingRules_eq_of_agreeOn {rules : List ResultRule}
    (h : ∀ r ∈ rules, AgreeOn (keysOf r.condition) a b) :
    matchingRules rules a = matchingRules rules b :=
  List.filter_congr fun r hr => holds_eq_of_agreeOn (h r hr)

theorem branchTarget_eq_of_agreeOn (steps : List WizardStep) {branches : List WizardBranch}
    (h : ∀ br ∈ branches, AgreeOn (keysOf br.condition) a b) :
    branchTarget steps a branches = branchTarget steps b branches := by
  induction branches with
  | nil => rfl
  | cons br branches ih =>
    rw [List.forall_mem_cons] at h
    unfold branchTarget at ih ⊢
    rw [List.findSome?_cons, List.findSome?_cons, holds_eq_of_agreeOn h.1, ih h.2]

theorem nextStepIndex_eq_of_agreeOn {steps : List WizardStep} {index : Int}
    (h : ∀ step, stepAt? steps index = some step →
      ∀ br ∈ step.branches, AgreeOn (keysOf br.condition) a b) :
    nextStepIndex steps index a = nextStepIndex steps index b := by
  show (stepAt? steps index).map _ = (stepAt? steps index).map _
  cases hstep : stepAt? steps index with
  | none => rfl
  | some step =>
    rw [Option.map_some, Option.map_some, nextIndexFrom, nextIndexFrom,
      branchTarget_eq_of_agreeOn steps (h step hstep)]

/-! ### Where the way leads -/

theorem lt_of_indexOfStep {steps : List WizardStep} {id : String} {i : Nat}
    (h : indexOfStep steps id = some i) : i < steps.length :=
  (List.findIdx?_eq_some_iff_getElem.mp h).1

theorem lt_of_branchTarget {steps : List WizardStep} {answers : Answers}
    {branches : List WizardBranch} {i : Nat} (h : branchTarget steps answers branches = some i) :
    i < steps.length := by
  obtain ⟨br, -, hbr⟩ := List.exists_of_findSome?_eq_some h
  split at hbr
  · exact lt_of_indexOfStep hbr
  · cases hbr

/-- A step is followed by a step of the wizard, or by the index behind its own. -/
theorem nextIndexFrom_cases (steps : List WizardStep) (step : WizardStep) (index : Int)
    (answers : Answers) :
    (∃ i : Nat, i < steps.length ∧ nextIndexFrom steps step index answers = i) ∨
      nextIndexFrom steps step index answers = index + 1 := by
  unfold nextIndexFrom
  split
  · next i hi => exact .inl ⟨i, lt_of_branchTarget hi, rfl⟩
  · split
    · next i hi =>
      obtain ⟨id, -, hid⟩ := Option.bind_eq_some_iff.mp hi
      split at hid
      · cases hid
      · exact .inl ⟨i, lt_of_indexOfStep hid, rfl⟩
    · exact .inr rfl

theorem exists_stepAt? {steps : List WizardStep} {index : Int} (hlow : -steps.length ≤ index)
    (hhigh : index < steps.length) : ∃ step, stepAt? steps index = some step := by
  let i := if index < 0 then index + steps.length else index
  have hi : 0 ≤ i ∧ i < steps.length := by
    dsimp only [i]
    split <;> omega
  have hposition : positionOf steps.length index = some i.toNat := if_pos hi
  have hlt : i.toNat < steps.length := by omega
  exact ⟨steps[i.toNat], by rw [stepAt?, hposition, Option.bind_some, List.getElem?_eq_getElem hlt]⟩

/-- Two steps, one after the other. -/
def twoSteps : List WizardStep :=
  ["size", "offer"].map fun id =>
    { id, title := id, description := none, fields := [], nextStep := none, branches := [] }

end StaticSite.Wizard
