import StaticSite.Schema.Reader

/-!
# Comparisons

A comparison rates options by columns. The score of an option in a column is a number, a text, or
a list of texts.
-/

namespace StaticSite

open Schema

/-- The score of an option in a column. -/
inductive Score where
  | number (x : Binary64)
  | text (s : String)
  | list (items : List String)
deriving Repr

/-- An option that is compared. -/
structure ComparisonOption where
  name : String
  url : Option String
  badge : Option String
  scores : List (String × Score)
deriving Repr

/-- How the scores of a column are shown. -/
inductive ColumnKind where
  | number
  | text
  | rating
deriving DecidableEq, Repr

/-- The word for a kind of column. -/
def ColumnKind.word : ColumnKind → String
  | .number => "number"
  | .text => "text"
  | .rating => "rating"

/-- A column of a comparison. -/
structure ComparisonColumn where
  key : String
  label : String
  kind : ColumnKind
  sortable : Bool
deriving Repr

/-- A comparison. -/
structure Comparison where
  options : List ComparisonOption
  columns : List ComparisonColumn
  defaultSort : Option String
  verdict : Option String
deriving Repr

/-- The problems of a value that is no score: one for each kind of score it is not. -/
def Score.problems (v : Json) : List Problem :=
  let texts : List Problem := match readList readText v with
    | .ok _ => []
    | .bad ps => ps
  [⟨[.field "float"], .floatType⟩, ⟨[.field "str"], .stringType⟩] ++
    texts.map (Problem.under (.field "list[str]"))

/-- Reads a score. -/
def Score.read : Reader Score := fun v =>
  match v with
  | .str s => .ok (.text s)
  | .arr items =>
    match readList readText (.arr items) with
    | .ok ts => .ok (.list ts)
    | .bad _ => .bad (Score.problems v)
  | v =>
    match readNumber v with
    | .ok x => .ok (.number x)
    | .bad _ => .bad (Score.problems v)

/-- Reads an option. -/
def ComparisonOption.read : Reader ComparisonOption := record fun fs =>
  .mk <$> requiredField fs "name" readText <*> optionalField fs "url" readText
    <*> optionalField fs "badge" readText
    <*> defaultField fs "scores" [] (readDict Score.read)

/-- Reads a column. -/
def ComparisonColumn.read : Reader ComparisonColumn := record fun fs =>
  .mk <$> requiredField fs "key" readText <*> requiredField fs "label" readText
    <*> defaultField fs "type" .text
      (oneOf [("number", .number), ("text", .text), ("rating", .rating)])
    <*> defaultField fs "sortable" true readFlag

/-- Reads a comparison. -/
def Comparison.read : Reader Comparison := record fun fs =>
  .mk <$> listField fs "options" ComparisonOption.read
    <*> listField fs "columns" ComparisonColumn.read
    <*> optionalField fs (either "defaultSort" "default_sort") readText
    <*> optionalField fs "verdict" readText

end StaticSite
