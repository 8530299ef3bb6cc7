import StaticSite.Schema.Reader

/-!
# Cost guides and research

A cost guide lists ranges of prices and what they depend on. Research holds statistics, from whose
texts ranges can be read, and factors as free records.
-/

namespace StaticSite

open Schema

/-- A range of prices. -/
structure CostRange where
  label : Option String
  low : Binary64
  high : Binary64
  average : Option Binary64
  dataPoints : List Binary64
deriving Repr

/-- How much a factor weighs. -/
inductive Impact where
  | low
  | medium
  | high
deriving DecidableEq, Repr

/-- The word for an impact. -/
def Impact.word : Impact → String
  | .low => "low"
  | .medium => "medium"
  | .high => "high"

/-- The words for the impacts. -/
def Impact.words : List (String × Impact) := [("low", .low), ("medium", .medium), ("high", .high)]

/-- Something that a price depends on. -/
structure CostFactor where
  name : String
  impact : Impact
  description : String
deriving Repr

/-- A cost guide. -/
structure CostGuide where
  ranges : List CostRange
  factors : List CostFactor
deriving Repr

/-- A statistic with its source. -/
structure Statistic where
  stat : String
  source : String
  date : String
deriving Repr

/-- Research behind an article. -/
structure Research where
  statistics : List Statistic
  factors : List (List (String × Json))
deriving Repr

/-- Reads a range. -/
def CostRange.read : Reader CostRange := record fun fs =>
  .mk <$> optionalField fs "label" readText <*> requiredField fs "low" readNumber
    <*> requiredField fs "high" readNumber
    <*> optionalField fs "average" readNumber
    <*> listField fs (either "dataPoints" "data_points") readNumber

/-- Reads a factor. -/
def CostFactor.read : Reader CostFactor := record fun fs =>
  .mk <$> requiredField fs "name" readText <*> defaultField fs "impact" .medium (oneOf Impact.words)
    <*> defaultField fs "description" "" readText

/-- Reads a cost guide. -/
def CostGuide.read : Reader CostGuide := record fun fs =>
  .mk <$> listField fs "ranges" CostRange.read <*> listField fs "factors" CostFactor.read

/-- Reads a statistic. -/
def Statistic.read : Reader Statistic := record fun fs =>
  .mk <$> defaultField fs "stat" "" readText <*> defaultField fs "source" "" readText
    <*> defaultField fs "date" "" readText

/-- Reads research. -/
def Research.read : Reader Research := record fun fs =>
  .mk <$> listField fs "statistics" Statistic.read <*> listField fs "factors" readObject

end StaticSite
