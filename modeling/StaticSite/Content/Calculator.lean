import StaticSite.Schema.Reader

/-!
# Calculators

A calculator asks for numbers, and shows numbers that a named formula makes of them.
-/

namespace StaticSite

open Schema

/-- A choice of a selection, and the number it stands for. -/
structure CalculatorChoice where
  label : String
  value : Binary64
deriving Repr

/-- How a calculator asks for a number. -/
inductive InputKind where
  | number
  | select
  | range
deriving DecidableEq, Repr

/-- The word for a kind of input. -/
def InputKind.word : InputKind → String
  | .number => "number"
  | .select => "select"
  | .range => "range"

/-- A number that a calculator asks for. -/
structure CalculatorInput where
  id : String
  label : String
  kind : InputKind
  initial : Option Binary64
  min : Option Binary64
  max : Option Binary64
  step : Option Binary64
  choices : List CalculatorChoice
deriving Repr

/-- How a result is shown. -/
inductive ResultFormat where
  | currency
  | percent
  | number
deriving DecidableEq, Repr

/-- The word for a format. -/
def ResultFormat.word : ResultFormat → String
  | .currency => "currency"
  | .percent => "percent"
  | .number => "number"

/-- A number that a calculator shows. -/
structure CalculatorOutput where
  id : String
  label : String
  format : ResultFormat
  decimals : Int
deriving Repr

/-- A calculator. -/
structure Calculator where
  inputs : List CalculatorInput
  outputs : List CalculatorOutput
  formula : Option String
  assumptions : List String
  methodology : Option String
deriving Repr

/-- Reads a choice. -/
def CalculatorChoice.read : Reader CalculatorChoice := record fun fs =>
  .mk <$> requiredField fs "label" readText <*> requiredField fs "value" readNumber

/-- Reads an input. -/
def CalculatorInput.read : Reader CalculatorInput := record fun fs =>
  .mk <$> requiredField fs "id" readText <*> requiredField fs "label" readText
    <*> defaultField fs "type" .number
      (oneOf [("number", .number), ("select", .select), ("range", .range)])
    <*> optionalField fs "default" readNumber <*> optionalField fs "min" readNumber
    <*> optionalField fs "max" readNumber
    <*> optionalField fs "step" readNumber <*> listField fs "options" CalculatorChoice.read

/-- Reads an output. -/
def CalculatorOutput.read : Reader CalculatorOutput := record fun fs =>
  .mk <$> requiredField fs "id" readText <*> requiredField fs "label" readText
    <*> defaultField fs "format" .number
      (oneOf [("currency", .currency), ("percent", .percent), ("number", .number)])
    <*> defaultField fs "decimals" 2 (integerWithin 0 10)

/-- Reads a calculator. -/
def Calculator.read : Reader Calculator := record fun fs =>
  .mk <$> listField fs "inputs" CalculatorInput.read
    <*> listField fs "outputs" CalculatorOutput.read <*> optionalField fs "formula" readText
    <*> listField fs "assumptions" readText <*> optionalField fs "methodology" readText

end StaticSite
