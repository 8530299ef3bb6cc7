import StaticSite.Html.Markup
import StaticSite.Html.Reader
import StaticSite.Link.HostCache
import StaticSite.Link.Url

/-!
# Links that lead out of a site

A `LinkPolicy` knows the host of a site and the hosts of the same owner.

* A link to a host of the same owner is blocked: a span with the contents of the link takes its
  place.
* A link to any other host opens a new window and says nothing of where it comes from.
* A link without a host, or to the site itself, stays as it is.

`LinkPolicy.apply` treats the links of a piece of HTML so. It fails with the first address that
cannot be read.
-/

namespace StaticSite.Link

open Html (Attribute Node)

/-- The host of a site, and the hosts to which its links are blocked. -/
structure LinkPolicy where
  own : Option String
  blocked : List String
deriving Repr

namespace LinkPolicy

/-- The policy of a site with a domain, among the hosts of a portfolio. -/
def ofDomain (domain : String) (portfolio : List String) : LinkPolicy :=
  let own := if domain.isEmpty then none else some (normalizeHost domain)
  { own, blocked := portfolio.filter fun h => h.isEmpty || own != some h }

/-- What becomes of a link. -/
inductive Destination where
  | within
  | outside
  | blocked
deriving DecidableEq, Repr

/-- Where an address leads. -/
def destination (policy : LinkPolicy) (address : String) : Except UrlError Destination := do
  let url ← Url.parse address
  if url.scheme != "http" && url.scheme != "https" then return .within
  match url.hostname? with
  | none => return .within
  | some hostname =>
    let host := normalizeHost hostname
    if policy.blocked.contains host then return .blocked
    else if policy.own == some host then return .within
    else return .outside

/-- Attributes with a value for a name. -/
def setAttribute (name value : String) (attributes : List Attribute) : List Attribute :=
  (attributes.filter fun a => a.1 != name) ++ [(name, value)]

/-- The attributes of a link that leads outside. -/
def outsideAttributes (attributes : List Attribute) : List Attribute :=
  setAttribute "target" "_blank" (setAttribute "rel" "noopener noreferrer" attributes)

/-- The element that takes the place of a link, before its contents are treated. -/
def treat (policy : LinkPolicy) (name : String) (attributes : List Attribute) :
    Except UrlError (String × List Attribute) :=
  match if name == "a" then attributes.lookup "href" else none with
  | none => return (name, attributes)
  | some address => do
    match ← policy.destination address with
    | .within => return (name, attributes)
    | .outside => return (name, outsideAttributes attributes)
    | .blocked => return ("span", [("class", "portfolio-link-blocked")])

mutual

/-- Treats the links of a node. -/
def applyNode (policy : LinkPolicy) : Node → Except UrlError Node
  | .text data => return .text data
  | .element name attributes children => do
    let (name, attributes) ← policy.treat name attributes
    return .element name attributes (← applyNodes policy children)

/-- Treats the links of nodes. -/
def applyNodes (policy : LinkPolicy) : List Node → Except UrlError (List Node)
  | [] => return []
  | n :: ns => do
    let n ← applyNode policy n
    return n :: (← applyNodes policy ns)

end

/-- Treats the links of a piece of HTML. A piece without a link is not read. -/
def apply (policy : LinkPolicy) (html : Markup) : Except UrlError Markup :=
  if !Text.contains html.text "<a" then return html
  else do
    let nodes ← policy.applyNodes (Html.readBody html.text)
    return ⟨Html.writeNodes nodes⟩

end LinkPolicy

end StaticSite.Link
