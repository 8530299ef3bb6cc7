import StaticSite.Condition.Eval
import StaticSite.Content.Wizard

/-!
# Moving through a wizard

* `isAnswered` tells whether a question has an answer, `stepIsValid` whether all required questions
  of a step have one.
* `nextStepIndex` is the step that follows: the goal of the first branch whose condition holds, else
  the named next step, else the following one. A goal that names no step is passed over, and the
  index after the last step stands for the results.
* `matchingRules` are the results whose conditions hold.
-/

namespace StaticSite.Wizard

open Condition (Answers)

/-- Whether a value counts as an answer. -/
def isAnswered : Option Json → Bool
  | none => false
  | some .null => false
  | some (.str s) => s != ""
  | some (.arr items) => !items.isEmpty
  | some _ => true

/-- Whether every required question of a step is answered. -/
def stepIsValid (step : WizardStep) (answers : Answers) : Bool :=
  (step.fields.filter (·.required)).all fun f => isAnswered (answers.lookup f.id)

/-- The position of the first step with a name. -/
def indexOfStep (steps : List WizardStep) (id : String) : Option Nat :=
  steps.findIdx? (·.id == id)

/-- The goal of the first branch whose condition holds and whose goal is a step. -/
def branchTarget (steps : List WizardStep) (answers : Answers) (branches : List WizardBranch) :
    Option Nat :=
  branches.findSome? fun b =>
    if Condition.holds b.condition answers then indexOfStep steps b.goTo else none

/-- The index of the step after a given one, which stands at `index`. -/
def nextIndexFrom (steps : List WizardStep) (step : WizardStep) (index : Int)
    (answers : Answers) : Int :=
  match branchTarget steps answers step.branches with
  | some i => i
  | none =>
    match step.nextStep.bind fun id => if id = "" then none else indexOfStep steps id with
    | some i => i
    | none => index + 1

/-- The position that an index names; a negative one counts from the end. -/
def positionOf (count : Nat) (index : Int) : Option Nat :=
  let i := if index < 0 then index + count else index
  if 0 ≤ i ∧ i < count then some i.toNat else none

/-- The index of the step after the one at `index`; nothing if there is no such step. -/
def nextStepIndex (steps : List WizardStep) (index : Int) (answers : Answers) : Option Int :=
  ((positionOf steps.length index).bind (steps[·]?)).map (nextIndexFrom steps · index answers)

/-- The step at an index. -/
def stepAt? (steps : List WizardStep) (index : Int) : Option WizardStep :=
  (positionOf steps.length index).bind (steps[·]?)

/-- The results whose conditions hold. -/
def matchingRules (rules : List ResultRule) (answers : Answers) : List ResultRule :=
  rules.filter fun r => Condition.holds r.condition answers

end StaticSite.Wizard
