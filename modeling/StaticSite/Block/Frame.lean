import StaticSite.Block.Context
import StaticSite.Widget.LeadForm

/-!
# Header, footer and hero

The blocks that frame a page, and the one that opens it.
-/

namespace StaticSite.Block

variable (b : Block) (ctx : BlockContext)

/-- A header: the name of the site and its navigation. -/
def header : Markup :=
  let sticky :=
    if b.config.flag "sticky" false then [attr "style" "position:sticky;top:0;z-index:50"] else []
  let links := b.content.records "navLinks"
  let nav := Markup.when (!links.isEmpty)
    (el "nav" [] (Markup.joinWith " " (links.map recordLink)))
  Markup.lines
    [startTag "header" ([cls ("header header--" ++ b.variantOr "topbar")] ++ sticky),
     .indent 2 <| startTag "div" [cls "site-container"],
     .indent 4 <| actionLink "/" "logo" ((b.content.text? "siteName").getD ctx.siteTitle),
     .indent 4 <| nav,
     .indent 2 <| endTag "div",
     endTag "header"]

/-- A column of links in a footer. -/
def footerColumn (column : Fields) : Markup :=
  let links := (column.records "links").map fun link => el "li" [] (recordLink link)
  el "div" [cls "footer-col"]
    (el "h4" [] (esc (column.text "title")) ++ el "ul" [] (Markup.concat links))

/-- The columns of links in a footer. -/
def footerColumns (columns : List Fields) : Markup :=
  Markup.when (!columns.isEmpty)
    (el "div" [cls "footer-columns"] (Markup.concat (columns.map footerColumn)))

/-- The form for a newsletter, if there is a secure address to send it to. -/
def newsletter (content : Fields) : Markup :=
  Markup.whenSome (secureEndpoint? (content.text? "newsletterEndpoint")) fun endpoint =>
    Markup.lines
      [startTag "div" [cls "footer-newsletter"],
       .indent 2 <| el "h4" [] (esc ((content.text? "newsletterHeadline").getD "Stay updated")),
       .indent 2 <| startTag "form"
        [attr "action" endpoint, attr "method" "POST", cls "newsletter-form"],
       .indent 4 <| leaf "input"
        [attr "type" "email", attr "name" "email", attr "placeholder" "your@email.com",
         flag "required"],
       .indent 4 <| el "button" [attr "type" "submit"] (esc "Subscribe"),
       .indent 2 <| endTag "form",
       endTag "div"]

/-- The year of a footer: the one that is given, unless it is zero, or the current one. -/
def copyrightYear : Except BlockError Int :=
  match (b.content.number? "copyrightYear").filter fun n => !n.isZero with
  | some n => BlockError.ofInteger n.truncate?
  | none => return ctx.now.utc.date.year

/-- A footer. -/
def footer : BlockResult := do
  let variant := b.variantOr "minimal"
  let inner :=
    if variant == "multi-column" then footerColumns (b.content.records "columns")
    else if variant == "newsletter" then newsletter b.content
    else .empty
  let year ← copyrightYear b ctx
  let name := (b.content.text? "siteName").getD ctx.siteTitle
  let copyright := esc (toString year ++ " " ++ name ++ ". All rights reserved.")
  return Markup.lines
    [startTag "footer" [cls ("footer footer--" ++ variant)],
     .indent 2 <| startTag "div" [cls "site-container"],
     .indent 4 <| inner,
     .indent 4 <| textIn "div" "footer-disclaimer" (b.content.text? "disclaimerText"),
     .indent 4 <| el "p" [] (html "&copy; " ++ copyright),
     .indent 2 <| endTag "div",
     endTag "footer"]

/-- A link that is there if both its address and its label are given. -/
def givenLink (content : Fields) (className : String) : Markup :=
  match content.text? "ctaUrl", content.text? "ctaText" with
  | some url, some label => actionLink url className label
  | _, _ => .empty

/-- The opening of a page. -/
def hero : Markup :=
  Markup.lines
    [startTag "section" [cls ("hero hero--" ++ b.variantOr "centered")],
     .indent 2 <| startTag "div" [cls "site-container"],
     .indent 4 <| textIn "span" "hero-badge" (b.content.text? "badge"),
     .indent 4 <| el "h1" [] (esc ((b.content.text? "heading").getD ctx.siteTitle)),
     .indent 4 <| textIn "p" "hero-sub" (b.content.text? "subheading"),
     .indent 4 <| givenLink b.content "cta-button hero-cta",
     .indent 2 <| endTag "div",
     endTag "section"]

end StaticSite.Block
