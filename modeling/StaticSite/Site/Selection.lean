import StaticSite.Content.Site
import StaticSite.Site.Route

/-!
# What is published

Of the records of a site only some are published: those that are live, whose slug or route can stand
in a path and is not reserved. Of several with the same place the first one counts.

* `liveArticles` and `publishedPages` are the records that are published.
* `CompileRequest.mode` tells whether a site is made of pages or of articles.
-/

namespace StaticSite

/-- The first element for each key, in order, but for the keys that were seen already. -/
def firstOfEach {α κ : Type} [BEq κ] (key : α → κ) (seen : List κ) : List α → List α
  | [] => []
  | x :: xs =>
    if seen.contains (key x) then firstOfEach key seen xs
    else x :: firstOfEach key (key x :: seen) xs

/-- Whether an article may be published: it is live, and its slug is safe and not reserved. -/
def Article.isPublishable (a : Article) : Bool :=
  a.isLive && Route.isSafeSlug a.slug && !Route.isReserved a.slug

/-- Whether a page may be published: it is marked so, and its route is safe and not reserved. -/
def Page.isPublishable (p : Page) : Bool :=
  p.isPublished && Route.isSafeRoute p.route && !Route.isReserved (Route.root p.route)

/-- The articles that are published. -/
def liveArticles (articles : List Article) : List Article :=
  firstOfEach Article.slug [] (articles.filter Article.isPublishable)

/-- The pages that are published. -/
def publishedPages (pages : List Page) : List Page :=
  firstOfEach (fun p => Route.filePath p.route) [] (pages.filter Page.isPublishable)

/-- What a site is made of. -/
inductive SiteMode where
  | articles
  | pages
deriving DecidableEq, Repr

/-- The word for what a site is made of. -/
def SiteMode.word : SiteMode → String
  | .articles => "v1"
  | .pages => "v2"

/-- A site is made of pages if one of them may be published, and of articles otherwise. -/
def CompileRequest.mode (r : CompileRequest) : SiteMode :=
  if r.pages.any Page.isPublishable then .pages else .articles

end StaticSite
