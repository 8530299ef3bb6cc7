import StaticSite.Block.Context
import StaticSite.Page.LinkedData
import StaticSite.Widget.Checklist

/-!
# Texts

Blocks that show texts: an article, questions with their answers, the column beside the contents,
and a note on the author. Others tell what a page rests on: its sources, when it was checked,
badges, and a medical disclaimer.
-/

namespace StaticSite.Block

variable (b : Block) (ctx : BlockContext)

/-- An article. All pages but the home page can be printed. -/
def articleBody : BlockResult := do
  let print := Markup.when (!isHome ctx.route)
    (el "button" [attr "type" "button", cls "print-btn", attr "onclick" "window.print()"]
      (esc "Print"))
  let text ← ctx.prose (b.content.text "markdown")
  return Markup.lines
    [startTag "article" [cls "article-body"],
     .indent 2 <| Markup.whenSome (b.content.text? "title") fun t => el "h1" [] (esc t),
     .indent 2 <| print,
     .indent 2 <| text,
     endTag "article"]

/-- Questions with their answers as linked data. -/
def faqData (entries : List Fields) : Markup :=
  let question (e : Fields) : Json := questionData (e.text "question") (e.text "answer")
  linkedData
    [vocabularyMember, classMember "FAQPage", ("mainEntity", .arr (entries.map question))]

/-- Questions that unfold into their answers. -/
def faq : Markup :=
  let entries := b.content.recordsWith "items" "question"
  let openFirst := b.config.flag "openFirst" false
  let item (i : Nat) (e : Fields) : Markup :=
    let attrs := if i = 0 && openFirst then [StaticSite.flag "open"] else []
    question attrs (e.text "question") (Html.sanitize (e.text "answer"))
  Markup.when (!entries.isEmpty)
    (Markup.lines
      [startTag "section" [cls "faq-section"],
       .indent 2 <| el "h2" [] (esc "Frequently Asked Questions"),
       .indent 2 <| startTag "div" [cls "faq-list"],
       Markup.lines (entries.mapIdx item),
       .indent 2 <| endTag "div",
       .indent 2 <| Markup.when (b.config.flag "emitJsonLd" true) (faqData entries),
       endTag "section"])

/-- A part of the column beside the contents. -/
def sidebarPart (s : Fields) : Markup :=
  el "div" [cls "sidebar-section"]
    (el "h4" [] (esc (s.text "title")) ++ Html.sanitize (s.text "html"))

/-- The column beside the contents. -/
def sidebar : Markup :=
  let parts := b.content.records "sections"
  Markup.when (!parts.isEmpty)
    (el "aside" [cls "sidebar"] (Markup.concat (parts.map sidebarPart)))

/-- A note on the author. -/
def authorBio : Markup :=
  Markup.whenSome (b.content.text? "name") fun name =>
    Markup.lines
      [startTag "aside" [cls "author-bio"],
       .indent 2 <| el "h3" [] (esc name),
       .indent 2 <| textIn "span" "author-title" (b.content.text? "title"),
       .indent 2 <| el "p" [] (esc (b.content.text "bio")),
       endTag "aside"]

/-! ### What a page rests on -/

/-- A source of a page. -/
def source (s : Fields) : Markup :=
  let link := match s.text? "url" with
    | some url =>
      [attr "href" url, attr "rel" "nofollow noopener", attr "target" "_blank"]
    | none => []
  let publisher := Markup.whenSome (s.text? "publisher") fun p => esc (" (" ++ p ++ ")")
  let retrieved := Markup.whenSome (s.text? "retrievedAt") fun r =>
    esc " " ++ el "small" [] (esc ("(Retrieved " ++ r ++ ")"))
  let usage := Markup.whenSome (s.text? "usage") fun u =>
    esc " " ++ el "span" [cls "data-usage"] (esc u)
  el "li" [cls "data-source-item"]
    (el "a" link (esc (s.text "title")) ++ publisher ++ retrieved ++ usage)

/-- The sources of a page. -/
def citations : Markup :=
  let sources := b.content.recordsWith "sources" "title"
  Markup.when (!sources.isEmpty)
    (Markup.lines
      [startTag "section" [cls "data-sources"],
       .indent 2 <| el "h2" [] (esc "Data Sources"),
       .indent 2 <| el "ul" [] (Markup.lines (sources.map source)),
       endTag "section"])

/-- The class and the words for the state of a page that was checked on a date. -/
def reviewState (status date : String) : String × String :=
  if status == "stale" then ("freshness-red", "Needs update")
  else if status == "review-pending" then ("freshness-yellow", "Review pending")
  else ("freshness-green", "Verified " ++ date)

/-- When a page was checked, and by whom. -/
def lastUpdated : Markup :=
  Markup.whenSome (b.content.text? "date") fun date =>
    let (className, label) := reviewState (b.content.text "status") date
    let reviewer := Markup.whenSome (b.content.text? "reviewedBy") fun name =>
      el "span" [cls "reviewed-by"] (esc ("Reviewed by " ++ name))
    el "div" [cls ("freshness-badge " ++ className)]
      (el "span" [cls "freshness-dot"] .empty ++ esc label) ++ reviewer

/-- A badge, with a tooltip if it has a description. -/
def trustBadge (badge : Fields) : Markup :=
  let label := el "strong" [] (esc (badge.text "label"))
  match badge.text? "description" with
  | some d => el "div" [cls "trust-badge", attr "data-tooltip" d] (label ++ el "p" [] (esc d))
  | none => el "div" [cls "trust-badge"] label

/-- Badges in a row. -/
def trustBadges : Markup :=
  let badges := b.content.recordsWith "badges" "label"
  Markup.when (!badges.isEmpty)
    (el "section" [cls "trust-badges"]
      (el "div" [cls "trust-badges-row"] (Markup.concat (badges.map trustBadge))))

/-- The medical disclaimer of pages that give none of their own. -/
def medicalDisclaimerText : String :=
  "This content is for informational purposes only and is not a substitute for professional " ++
    "medical advice, diagnosis, or treatment. Always seek the advice of your physician or other " ++
    "qualified health provider."

/-- The advice to talk to a doctor. -/
def doctorAdvice : Markup :=
  Markup.lines
    [startTag "div" [cls "cta-doctor"],
     .indent 2 <| el "h2" [] (esc "Talk to Your Doctor"),
     .indent 2 <| el "p" []
      (esc ("The information on this page is not a substitute for professional medical " ++
        "guidance. Please consult a qualified healthcare provider before making any " ++
        "health-related decisions.")),
     endTag "div"]

/-- A medical disclaimer. -/
def medicalDisclaimer : Markup :=
  let text := (b.content.text? "disclaimerText").getD medicalDisclaimerText
  Markup.lines
    [startTag "div" [cls "medical-disclaimer", attr "role" "alert"],
     .indent 2 <| el "strong" [] (esc "Medical Disclaimer:") ++ esc (" " ++ text),
     endTag "div"] ++ Markup.when (b.config.flag "showDoctorCta" true) doctorAdvice

end StaticSite.Block
