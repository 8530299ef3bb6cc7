import StaticSite.Content.Prose
import StaticSite.Page.Error
import StaticSite.Page.LinkedData
import StaticSite.Page.Trust

/-!
# The page of an article

Every type of article fills the same plan: the disclaimer, a notice, linked data, the badge and the
print button, the article itself, its data sources, the notes below, and a script.

* `ArticleContext` is what a page needs besides the article.
* `ArticleParts` is what a type contributes, and `ArticleParts.page` lays it out.
-/

namespace StaticSite

/-- What the page of an article needs besides the article. -/
structure ArticleContext where
  domain : String
  shell : Option PageShell
  settings : Option Disclosure := none
  datasets : List Dataset := []
  citations : List Citation := []
  policy : Link.LinkPolicy
  now : Timestamp

namespace ArticleContext

/-- The markup of a text. -/
def prose (ctx : ArticleContext) (text : String) : Except PageError Markup :=
  (renderProse ctx.policy text).mapError .address

end ArticleContext

/-- What a type of article contributes to its page. -/
structure ArticleParts where
  contents : Markup
  subject : Subject := .article
  extra : List (String × Json) := []
  notice : Markup := .empty
  code : Markup := .empty

namespace ArticleParts

/-- What stands between header and footer of the page of an article. -/
def body (p : ArticleParts) (a : Article) (ctx : ArticleContext) : Markup :=
  Markup.stack
    [disclaimer a ctx.settings,
     p.notice,
     articleData a ctx.domain p.subject p.extra,
     freshnessBadge ctx.now a ctx.datasets ++ printButton a.contentType,
     Markup.lines
      [startTag "article" [], el "h1" [] (esc a.title), p.contents, endTag "article"],
     dataSources ctx.datasets,
     trustSection a ctx.settings ctx.citations,
     p.code]

/-- The page of an article. -/
def page (p : ArticleParts) (a : Article) (ctx : ArticleContext) : Except PageError Markup :=
  match ctx.shell with
  | none => throw .shellMissing
  | some shell =>
    let head : PageShell.PageHead :=
      { title := a.title, description := a.description, extra := shareTags a ctx.domain }
    return shell.wrap head (p.body a ctx)

end ArticleParts

end StaticSite
