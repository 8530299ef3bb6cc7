import StaticSite.Content.Article

/-!
# Wording of wizards

The five content types of the wizard family differ in the words of their buttons and titles, and
in whether the results show the answers and the score.
-/

namespace StaticSite.Wizard

/-- The words of a wizard, and what its results show. -/
structure ModeCopy where
  finalStepLabel : String
  resultsTitle : String
  restartLabel : String
  emptyTitle : String
  emptyBody : String
  leadTitle : String
  leadButton : String
  showAnswerSummary : Bool
  showScore : Bool
deriving Repr

/-- The words of a plain wizard. -/
def ModeCopy.wizard : ModeCopy where
  finalStepLabel := "See Results"
  resultsTitle := "Your Results"
  restartLabel := "Start Over"
  emptyTitle := "No matching results"
  emptyBody := "Please try different answers."
  leadTitle := "Get Your Personalized Report"
  leadButton := "Get My Results"
  showAnswerSummary := false
  showScore := false

/-- The words of a configurator. -/
def ModeCopy.configurator : ModeCopy where
  finalStepLabel := "Review Configuration"
  resultsTitle := "Your Configuration"
  restartLabel := "Reconfigure"
  emptyTitle := "Configuration ready"
  emptyBody := "Your current selections are shown below."
  leadTitle := "Send Me This Configuration"
  leadButton := "Save Configuration"
  showAnswerSummary := true
  showScore := false

/-- The words of a quiz. -/
def ModeCopy.quiz : ModeCopy where
  finalStepLabel := "See Score"
  resultsTitle := "Your Score"
  restartLabel := "Retake Quiz"
  emptyTitle := "Quiz complete"
  emptyBody := "You completed the quiz. Review your score below."
  leadTitle := "Email My Quiz Results"
  leadButton := "Send Results"
  showAnswerSummary := false
  showScore := true

/-- The words of a survey. -/
def ModeCopy.survey : ModeCopy where
  finalStepLabel := "Submit Survey"
  resultsTitle := "Thanks for sharing"
  restartLabel := "Submit Another Response"
  emptyTitle := "Submission recorded"
  emptyBody := "Thank you for completing this survey."
  leadTitle := "Send Me A Copy"
  leadButton := "Email My Response"
  showAnswerSummary := true
  showScore := false

/-- The words of an assessment. -/
def ModeCopy.assessment : ModeCopy where
  finalStepLabel := "See Assessment"
  resultsTitle := "Assessment Results"
  restartLabel := "Retake Assessment"
  emptyTitle := "Assessment complete"
  emptyBody := "Review your outcome and recommendations below."
  leadTitle := "Email My Assessment"
  leadButton := "Send Assessment"
  showAnswerSummary := true
  showScore := true

/-- A kind of wizard. -/
inductive Mode where
  | wizard
  | configurator
  | quiz
  | survey
  | assessment
deriving DecidableEq, Repr

namespace Mode

/-- The modes with their words. -/
def words : List (String × Mode) :=
  [("wizard", .wizard), ("configurator", .configurator), ("quiz", .quiz), ("survey", .survey),
   ("assessment", .assessment)]

/-- The word for a mode. -/
def word : Mode → String
  | .wizard => "wizard"
  | .configurator => "configurator"
  | .quiz => "quiz"
  | .survey => "survey"
  | .assessment => "assessment"

/-- The mode with a word; for an unknown word a plain wizard. -/
def named (s : String) : Mode := (words.lookup s).getD .wizard

/-- The words of a mode. -/
def copy : Mode → ModeCopy
  | .wizard => .wizard
  | .configurator => .configurator
  | .quiz => .quiz
  | .survey => .survey
  | .assessment => .assessment

end Mode

end StaticSite.Wizard

/-- The kind of wizard that an article of a type is, if it is one. -/
def StaticSite.ContentType.wizardMode? : StaticSite.ContentType → Option StaticSite.Wizard.Mode
  | .wizard => some .wizard
  | .configurator => some .configurator
  | .quiz => some .quiz
  | .survey => some .survey
  | .assessment => some .assessment
  | _ => none
