import StaticSite.Content.Page
import StaticSite.Content.Prose
import StaticSite.Html.Markup
import StaticSite.Page.Error

/-!
# What a block is rendered with

* `BlockContext` is what a block knows of its page and site.
* `BlockError` says why a block cannot be rendered, and `BlockResult` is the markup of a block, or
  why there is none.
-/

namespace StaticSite

/-- What a block knows of the page it stands on. -/
structure BlockContext where
  domain : String
  siteTitle : String
  route : String
  theme : String
  skin : String
  pageTitle : Option String
  pageDescription : Option String
  published : Option Timestamp
  updated : Option Timestamp
  headScripts : Markup
  bodyScripts : Markup
  policy : Link.LinkPolicy
  /-- The time at which the site is made. -/
  now : Timestamp

/-- Why a block cannot be rendered. -/
inductive BlockError where
  /-- The content does not describe what the block shows. -/
  | content (problems : List Schema.Problem)
  | page (e : PageError)
  | numberTooLarge
deriving Repr

/-- The markup of a block, or why there is none. -/
abbrev BlockResult := Except BlockError Markup

namespace BlockError

/-- A value that is read from the content of a block. -/
def ofChecked {α : Type} : Schema.Checked α → Except BlockError α
  | .ok a => .ok a
  | .bad problems => .error (.content problems)

/-- A computation that fails as pages do. -/
def ofPage {α : Type} : Except PageError α → Except BlockError α := Except.mapError .page

/-- A computation that fails when a number has no nearest integer. -/
def ofInteger {α : Type} : Except IntegerError α → Except BlockError α :=
  Except.mapError fun e => .page (.number e)

/-- A computation that fails when a number is too large. -/
def ofNumber {α : Type} : Option α → Except BlockError α
  | some a => .ok a
  | none => .error .numberTooLarge

end BlockError

/-- The markup of a text on a page. -/
def BlockContext.prose (ctx : BlockContext) (text : String) : BlockResult :=
  BlockError.ofPage ((renderProse ctx.policy text).mapError .address)

namespace Block

/-- Whether a page is the home page. -/
def isHome (route : String) : Bool := route == "/"

/-- The variant of a block: its own, the one that is configured, or a default. -/
def variantOr (b : Block) (default : String) : String :=
  match b.variant.filter fun v => !v.isEmpty with
  | some v => v
  | none => (b.config.text? "variant").getD default

/-- The heading of a block, if it has one. -/
def sectionHeading (title : Option String) : Markup :=
  Markup.whenSome title fun t => el "h2" [cls "section-heading"] (esc t)

/-- A text in an element of a class, if there is one. -/
def textIn (element className : String) (text : Option String) : Markup :=
  Markup.whenSome text fun t => el element [cls className] (esc t)

/-- A link to act on. -/
def actionLink (href className label : String) : Markup :=
  el "a" [attr "href" href, cls className] (esc label)

/-- The link for a record with an address and a label. -/
def recordLink (link : Fields) : Markup :=
  el "a" [attr "href" ((link.text? "href").getD "#")] (esc (link.text "label"))

end Block

end StaticSite
