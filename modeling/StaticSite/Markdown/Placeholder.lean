import StaticSite.Text.Find

/-!
# Placeholders

A placeholder stands in an article where a link or an image was to be filled in. It is an opening
bracket, one of three words, and everything up to the next closing bracket on the line.
`stripPlaceholders` removes them.
-/

namespace StaticSite.Markdown

/-- The words that begin a placeholder. -/
def placeholderWords : List (List Char) :=
  ["INTERNAL_LINK", "EXTERNAL_LINK", "IMAGE"].map String.toList

/-- The text after the next closing bracket on the line. -/
def afterBracket? : List Char → Option (List Char)
  | [] => none
  | c :: cs => if c == ']' then some cs else if c == '\n' then none else afterBracket? cs

/-- The text after a placeholder. -/
def afterPlaceholder? : List Char → Option (List Char)
  | '[' :: cs =>
    (placeholderWords.findSome? fun word => Text.stripPrefix? word cs).bind afterBracket?
  | _ => none

/-- Removes placeholders, `skip` characters of the text still belonging to one. -/
def dropPlaceholders : Nat → List Char → List Char
  | _, [] => []
  | skip + 1, _ :: cs => dropPlaceholders skip cs
  | 0, c :: cs =>
    match afterPlaceholder? (c :: cs) with
    | some rest => dropPlaceholders (cs.length - rest.length) cs
    | none => c :: dropPlaceholders 0 cs

/-- Removes the placeholders of a text. -/
def stripPlaceholders (text : String) : String :=
  String.ofList (dropPlaceholders 0 text.toList)

end StaticSite.Markdown
