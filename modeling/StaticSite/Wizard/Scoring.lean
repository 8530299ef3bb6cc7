import StaticSite.Number.Arithmetic
import StaticSite.Wizard.Navigation

/-!
# Scores

The completion score is the share of required questions that are answered. The weighted score is
the weighted mean of what the answers count for, each between 0 and 100; an unanswered question
counts as zero. A weight that is not positive and finite is left out, and without any weight left
the completion score takes its place.

* `scoreValue` is what an answer counts for.
* `weightedScore`, `completionScore` and `computeScore` are the scores, from 0 to 100. The
  computations behind them, `weightedOf`, `completionOf` and `scoreOf`, work on numbers of any kind.
* `findBand` and `findOutcome` are the first band and outcome that contain a score.
-/

namespace StaticSite.Wizard

open Condition (Answers EvalError)

/-- Why there is no score. Lists and objects cannot be looked up in a table of values. -/
inductive ScoreError where
  | rounding (e : IntegerError)
  | number (e : EvalError)
  | nestedList
  | nestedObject
deriving DecidableEq, Repr

/-- The required questions of steps. -/
def requiredFields (steps : List WizardStep) : List WizardField :=
  steps.flatMap fun s => s.fields.filter (·.required)

section

variable {α : Type} [Arithmetic α]

/-- The nearest integer as a score. -/
def roundScore (x : α) : Except ScoreError Int :=
  match Arithmetic.roundHalfUp x with
  | .ok n => .ok n
  | .error e => .error (.rounding e)

/-- A part of a whole as a percentage. -/
def percentage (part whole : α) : α :=
  Arithmetic.mul (Arithmetic.div part whole) (Arithmetic.ofNat 100)

/-- The percentage of required questions that are answered. -/
def completionOf (α : Type) [Arithmetic α] (steps : List WizardStep) (answers : Answers) :
    Except ScoreError Int :=
  let required := requiredFields steps
  let answered := required.filter fun f => isAnswered (answers.lookup f.id)
  if required.isEmpty then .ok 100
  else
    roundScore (percentage (Arithmetic.ofNat answered.length : α)
      (Arithmetic.ofNat required.length))

/-- The numbers that the entries of a list count for, as far as the table knows them. -/
def mappedEntries (values : List (String × α)) : List Json → Except ScoreError (List α)
  | [] => .ok []
  | .arr _ :: _ => .error .nestedList
  | .obj _ :: _ => .error .nestedObject
  | .str s :: rest => do
    let more ← mappedEntries values rest
    .ok ((values.lookup s).toList ++ more)
  | _ :: rest => mappedEntries values rest

/-- What an answer counts for; nothing if there is none. -/
def scoreValue (table : ScoreTable α) (field : String) (answer : Option Json) :
    Except ScoreError (Option α) :=
  let values := (table.valueMap.lookup field).getD []
  let full : α := Arithmetic.ofNat 100
  match answer with
  | none => .ok none
  | some .null => .ok none
  | some (.bool _) => .ok (some full)
  | some (.int i) =>
    match Condition.widen i with
    | .ok x => .ok (some (Arithmetic.ofBinary64 x))
    | .error e => .error (.number e)
  | some (.float x) => .ok (some (Arithmetic.ofBinary64 x))
  | some (.str s) =>
    match values.lookup s with
    | some x => .ok (some x)
    | none =>
      if Text.isAllBlank s then .ok none
      else match Condition.numericText? s with
        | some x => .ok (some (Arithmetic.ofBinary64 x))
        | none => .ok (some full)
  | some (.arr []) => .ok (some (Arithmetic.ofNat 0))
  | some (.arr items) =>
    if values.isEmpty then .ok (some full)
    else do
      match ← mappedEntries values items with
      | [] => .ok (some full)
      | hits => .ok (some (Arithmetic.mean hits))
  | some (.obj _) => .ok (some full)

/-- Whether a weight is positive and finite. -/
def isUsable (weight : α) : Bool :=
  Arithmetic.isFinite weight && Arithmetic.lt (Arithmetic.ofNat 0) weight

/-- What is reached of a weight. -/
def share (weight value : α) : α :=
  Arithmetic.mul weight (Arithmetic.div (Arithmetic.clamp value) (Arithmetic.ofNat 100))

/-- The total of the weights and what is reached of it. -/
structure Tally (α : Type) where
  total : α
  achieved : α

/-- Adds one weight to a tally. -/
def Tally.count (table : ScoreTable α) (answers : Answers) (t : Tally α) (field : String)
    (weight : α) : Except ScoreError (Tally α) :=
  if isUsable weight then do
    let total := Arithmetic.add t.total weight
    match ← scoreValue table field (answers.lookup field) with
    | none => .ok ⟨total, t.achieved⟩
    | some v => .ok ⟨total, Arithmetic.add t.achieved (share weight v)⟩
  else .ok t

/-- The tally of a list of weights. -/
def tally (table : ScoreTable α) (answers : Answers) :
    List (String × α) → Tally α → Except ScoreError (Tally α)
  | [], t => .ok t
  | (field, weight) :: rest, t => do
    tally table answers rest (← t.count table answers field weight)

/-- The weighted mean of what the answers count for; nothing if no weight is usable. -/
def weightedOf (table : ScoreTable α) (answers : Answers) : Except ScoreError (Option Int) :=
  if table.method = some .weighted ∧ !table.weights.isEmpty then do
    let t ← tally table answers table.weights ⟨Arithmetic.ofNat 0, Arithmetic.ofNat 0⟩
    if Arithmetic.lt (Arithmetic.ofNat 0) t.total then
      let n ← roundScore (percentage t.achieved t.total)
      .ok (some n)
    else .ok none
  else .ok none

/-- The weighted score by a table, or the completion score if there is none. -/
def scoreOf (table : Option (ScoreTable α)) (steps : List WizardStep) (answers : Answers) :
    Except ScoreError Int := do
  match ← (table.map (weightedOf · answers)).getD (.ok none) with
  | some n => .ok n
  | none => completionOf α steps answers

end

/-- The weighted score of a wizard. -/
def weightedScore (scoring : Option Scoring) (answers : Answers) :
    Except ScoreError (Option Int) :=
  match scoring with
  | none => .ok none
  | some s => weightedOf s.table answers

/-- The completion score of a wizard. -/
def completionScore (steps : List WizardStep) (answers : Answers) : Except ScoreError Int :=
  completionOf Binary64 steps answers

/-- The score of a wizard. -/
def computeScore (w : Wizard) (answers : Answers) : Except ScoreError Int :=
  scoreOf (w.scoring.map (·.table)) w.steps answers

/-- Whether a score lies between two finite bounds. -/
def inRange (low high : Binary64) (score : Rat) : Bool :=
  low.isFinite && high.isFinite && decide (low.toRat ≤ score) && decide (score ≤ high.toRat)

/-- The first band that contains a score. -/
def findBand (scoring : Option Scoring) (score : Rat) : Option ScoreBand :=
  scoring.bind fun s => s.bands.find? fun b => inRange b.min b.max score

/-- The first outcome that contains a score. -/
def findOutcome (scoring : Option Scoring) (score : Rat) : Option ScoreOutcome :=
  scoring.bind fun s => s.outcomes.find? fun o => inRange o.min o.max score

end StaticSite.Wizard
