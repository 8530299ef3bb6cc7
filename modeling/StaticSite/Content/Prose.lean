import StaticSite.Html.Sanitize
import StaticSite.Link.Outgoing
import StaticSite.Markdown.Fence
import StaticSite.Markdown.Inline
import StaticSite.Markdown.Placeholder
import StaticSite.Markdown.RawHtml

/-!
# Prose of a page

`renderProse` turns an article's text into the markup of a page: the text is written as HTML, what
is not allowed is removed, and the links are treated by the policy of the site.

`Markdown.toHtml` writes the HTML. Fenced code and blocks of HTML are set aside first; what is left
is read into blocks, the text of the blocks is searched for markup, and the tree is written with the
pieces set aside in their places.
-/

namespace StaticSite.Markdown

/-- The depth to which markup and raw HTML are followed. No text nests deeper than its length. -/
def depthFor (cs : List Char) : Nat := cs.length + 16

/-- The inside of an article's root. -/
def insideHtml (root : Element) : List Char :=
  Text.stripList (escapeData root.text ++ elementsHtml root.children)

/-- An article's characters as HTML. -/
def htmlOf (cs : List Char) : List Char :=
  let (cs, fences) := extractFences (normalizeText cs)
  let (cs, blocks) := extractHtml fences.length cs
  let (root, references) := readDocument cs
  let (root, raw) := readInline references (fences ++ blocks).toArray (depthFor cs) root
  Text.stripList (restoreRaw raw (raw.size + 1) (insideHtml root.resolve))

/-- An article as HTML, without the placeholders that were left in it. A blank article has no
HTML. -/
def toHtml (source : String) : String :=
  let source := (stripPlaceholders source).toList
  if source.all Text.isBlank then "" else String.ofList (htmlOf source)

end StaticSite.Markdown

namespace StaticSite

/-- The markup of an article's text. -/
def renderProse (policy : Link.LinkPolicy) (text : String) : Except Link.UrlError Markup :=
  policy.apply (Html.sanitize (Markdown.toHtml text))

end StaticSite
