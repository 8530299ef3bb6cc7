import StaticSite.Text.Blank

/-!
# Style sheets

A style sheet is written line by line. A line is a comment, a rule, several rules, or empty.

* `rule` is a rule for a selector, `nested` a rule that holds rules, both on one line.
* `block` is a rule that holds rules, one to a line.
* `sheet` puts the lines together.
-/

namespace StaticSite.Css

/-- A body in braces. -/
def braced (body : String) : String := "\x7b" ++ body ++ "\x7d"

/-- A comment. -/
def comment (text : String) : String := "/* " ++ text ++ " */"

/-- A rule for a selector. -/
def rule (selector : String) (declarations : List String) : String :=
  selector ++ braced (";".intercalate declarations)

/-- Rules on one line. -/
def row (rules : List String) : String := String.join rules

/-- Rules under a condition, on one line. -/
def nested (condition : String) (rules : List String) : String := condition ++ braced (row rules)

/-- Rules under a condition, one to a line. -/
def block (condition : String) (rules : List String) : String :=
  condition ++ braced ("\n" ++ String.join (rules.map fun r => "  " ++ r ++ "\n"))

/-- Lines, each with a line feed at its end. -/
def sheet (ls : List String) : String := String.join (ls.map (· ++ "\n"))

/-- Properties that hold for the whole document, one to a line. -/
def rootProperties (properties : List (String × String)) : String :=
  ":root" ++ braced
    ("\n" ++ String.join (properties.map fun (name, value) =>
      "  --" ++ name ++ ":" ++ value ++ ";\n"))

end StaticSite.Css
