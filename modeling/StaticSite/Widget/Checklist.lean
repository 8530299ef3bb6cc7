import StaticSite.Html.Script
import StaticSite.Text.Blank
import StaticSite.Widget.Scripts

/-!
# Checklists and questions

The sections of an article are shown as steps to be ticked off, or as questions whose answers can be
unfolded.
-/

namespace StaticSite

/-!
## Sections of an article

A line that begins with two number signs and a blank is the heading of a section. The section ends
before the next heading; what comes before the first heading belongs to no section.
-/

/-- A section: its heading and the text below it. -/
structure Section where
  heading : String
  body : String
deriving DecidableEq, Repr

namespace Section

/-- The heading that a line is. If nothing but blanks follow the signs, the last one is the
heading. -/
def heading? (line : String) : Option String :=
  match line.toList with
  | '#' :: '#' :: rest =>
    let blanks := rest.takeWhile Text.isBlank
    let text := rest.drop blanks.length
    if blanks.isEmpty then none
    else if !text.isEmpty then some (String.ofList text)
    else if 2 ≤ blanks.length then some (String.ofList (blanks.drop (blanks.length - 1)))
    else none
  | _ => none

/-- A section with the lines below its heading. -/
def ofLines (heading : String) (body : List String) : Section :=
  ⟨heading, Text.strip (Text.unlines body)⟩

/-- The sections of lines, `heading` and `body` being the section in progress, its last line
first. -/
def collect (heading : String) (body : List String) : List String → List Section
  | [] => [ofLines heading body.reverse]
  | line :: rest =>
    match heading? line with
    | some next => ofLines heading body.reverse :: collect next [] rest
    | none => collect heading (line :: body) rest

/-- The sections of lines before which no section has begun. -/
def ofAll : List String → List Section
  | [] => []
  | line :: rest =>
    match heading? line with
    | some heading => collect heading [] rest
    | none => ofAll rest

end Section

/-- The sections of an article. -/
def sections (text : String) : List Section := Section.ofAll (Text.lines text)

/-! ## Steps and questions -/

/-- A step of a checklist, with its text. -/
def checklistItem (index : Nat) (heading : String) (text : Markup) : Markup :=
  let id := "checklist-step-" ++ toString index
  Markup.lines
    [startTag "div" [cls "checklist-item"],
     .indent 2 <| startTag "label" [attr "for" id],
     .indent 4 <| leaf "input" [attr "type" "checkbox", attr "id" id],
     .indent 4 <| el "span" [cls "checklist-check"] .empty,
     .indent 4 <| el "strong" [] (esc (toString (index + 1) ++ ". " ++ heading)),
     .indent 2 <| endTag "label",
     .indent 2 <| el "div" [cls "checklist-content"] text,
     endTag "div"]

/-- A checklist with its counter. -/
def checklist (items : List Markup) : Markup :=
  Markup.lines
    [startTag "div" [cls "checklist-progress", attr "id" "checklist-progress"],
     .indent 2 <| el "span" [attr "id" "checklist-completed-count"] (esc "0") ++ esc " of " ++
      el "span" [] (esc (toString items.length)) ++ esc " completed",
     endTag "div",
     el "div" [cls "checklist-list"] (Markup.lines items)]

/-- The lines of a question with its answer. -/
def question (attrs : List Markup) (heading : String) (answer : Markup) : Markup :=
  Markup.lines
    [startTag "details" ([cls "faq-item"] ++ attrs),
     .indent 2 <| el "summary" [cls "faq-question"] (esc heading),
     .indent 2 <| el "div" [cls "faq-answer"] answer,
     endTag "details"]

/-- A question with its answer as linked data. -/
def questionData (heading answer : String) : Json :=
  .obj
    [("@type", .str "Question"), ("name", .str heading),
     ("acceptedAnswer", .obj [("@type", .str "Answer"), ("text", .str answer)])]

/-- The length of a list up to its last element equal to `c`, with that element; zero if there is
none. -/
def lengthThrough (c : Char) (cs : List Char) : Nat := (cs.reverse.dropWhile (· != c)).length

/-- The start of a text. A negative length counts back from the end. -/
def start (length : Int) (cs : List Char) : List Char :=
  if length < 0 then cs.take (cs.length - length.natAbs) else cs.take length.toNat

/-- A text that is not longer than a limit, or else its start up to the last full stop, unless
that lies in the first three tenths of the limit, or to the last space that is not at its
beginning. -/
def shorten (limit : Int) (text : String) : String :=
  let cs := text.toList
  if cs.length ≤ limit then text
  else
    let cut := start limit cs
    let sentence := lengthThrough '.' cut
    let words := lengthThrough ' ' cut - 1
    let kept :=
      if 3 * limit < 10 * ((sentence : Int) - 1) then cut.take sentence
      else if 0 < words then cut.take words
      else cut
    String.ofList (kept ++ "...".toList)

end StaticSite
