import StaticSite.Block.Context
import StaticSite.Block.Scripts
import StaticSite.Html.Script

/-!
# Steps and calls to action

Blocks that ask the reader to do something: to take steps, or to follow a call.
-/

namespace StaticSite.Block

/-!
## Steps

A list of steps, which are numbered, or ticked off by the reader.
-/

/-- A step. -/
def step (interactive : Bool) (listId : String) (index : Nat) (s : Fields) : Markup :=
  let id := listId ++ "-" ++ toString index
  let marker :=
    if interactive then
      leaf "input" [attr "type" "checkbox", attr "id" id, cls "checklist-checkbox"]
    else el "span" [cls "checklist-number"] (esc (toString (index + 1)))
  Markup.lines
    [startTag "li" [cls "checklist-item"],
     .indent 2 <| startTag "label" [attr "for" id],
     .indent 4 <| marker,
     .indent 4 <| startTag "div" [cls "checklist-content"],
     .indent 6 <| el "h3" [] (esc (s.text "heading")),
     .indent 6 <| el "div" [] (Html.sanitize (s.text "body")),
     .indent 4 <| endTag "div",
     .indent 2 <| endTag "label",
     endTag "li"]

/-- A list of steps. -/
def checklist (b : Block) : Markup :=
  let steps := b.content.recordsWith "steps" "heading"
  let interactive := b.config.flag "interactive" true
  let id := "checklist-" ++ b.id
  let progress := Markup.when (b.config.flag "showProgress" true)
    (el "div" [cls "checklist-progress"]
      (esc ("0 of " ++ toString steps.length ++ " completed")))
  Markup.when (!steps.isEmpty)
    (Markup.lines
      [startTag "section" [cls "checklist-section", attr "id" id],
       .indent 2 <| progress,
       .indent 2 <| el "ol" [cls "checklist-list"]
        (Markup.lines (steps.mapIdx (step interactive id))),
       .indent 2 <| Markup.when interactive (script (tickedScript (Json.str id).inScript)),
       endTag "section"])

/-!
## Calls to action

A call to action stands in the page, or appears as the reader scrolls past the place of its block.
-/

/-- What a call to action says, where it leads, and how it looks. -/
structure Call where
  text : String
  label : String
  url : String
  style : String

namespace Call

/-- The call to action of a block, if it says anything. -/
def ofBlock? (b : Block) : Option Call :=
  (b.content.text? "text").map fun text =>
    { text
      label := (b.content.text? "buttonLabel").getD "Learn More"
      url := (b.content.text? "buttonUrl").getD "#"
      style := (b.config.text? "style").getD "bar" }

/-- A call to action in the page. -/
def inPage (c : Call) : Markup :=
  Markup.lines
    [startTag "section" [cls ("cta-section cta-section--" ++ c.style)],
     .indent 2 <| startTag "div" [cls "site-container"],
     .indent 4 <| el "p" [cls "cta-text"] (esc c.text),
     .indent 4 <| actionLink c.url "cta-button" c.label,
     .indent 2 <| endTag "div",
     endTag "section"]

/-- A call to action that appears as the reader scrolls. -/
def onScroll (c : Call) (id : String) : Markup :=
  Markup.lines
    [el "div" [cls "scroll-cta-sentinel", attr "aria-hidden" "true"] .empty,
     startTag "div"
      [cls ("scroll-cta scroll-cta-" ++ c.style), attr "id" id, attr "role" "complementary",
       attr "aria-label" "Call to action", attr "style" "display:none"],
     .indent 2 <| startTag "div" [cls "scroll-cta-inner"],
     .indent 4 <| el "p" [cls "scroll-cta-text"] (esc c.text),
     .indent 4 <| actionLink c.url "scroll-cta-btn" c.label,
     .indent 4 <| el "button"
      [cls "scroll-cta-dismiss", attr "aria-label" "Dismiss", attr "type" "button"]
      (html "&times;"),
     .indent 2 <| endTag "div",
     endTag "div",
     script (scrollCtaScript (Json.str id).inScript)]

end Call

variable (b : Block)

/-- A call to action that appears as the reader scrolls. -/
def scrollCta : Markup :=
  Markup.whenSome (Call.ofBlock? b) fun c => c.onScroll ("scroll-cta-" ++ b.id)

/-- A call to action, in the page unless it waits for the reader to scroll. -/
def ctaBanner : Markup :=
  if b.config.text "trigger" == "scroll" then scrollCta b
  else Markup.whenSome (Call.ofBlock? b) Call.inPage

end StaticSite.Block
