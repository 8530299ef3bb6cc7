import StaticSite.Content.Article
import StaticSite.Html.Markup
import StaticSite.Html.Script
import StaticSite.Json.Printer

/-!
# Linked data

A page describes itself to machines by JSON objects in the vocabulary of schema.org, inside a script
element.

* `linkedData` is the element for an object. Members without a value are left out.
* `articleData`, `siteData` and `breadcrumbData` are the elements for an article, for the home page
  and for the way from the home page to a page.
* `shareTags` are the tags by which other sites show a link to an article.
-/

namespace StaticSite

/-- The script element for an object. -/
def linkedData (members : List (String × Json)) : Markup :=
  let object : Json := .obj (members.filter fun (_, v) => v != .null)
  el "script" [attr "type" "application/ld+json"] (Html.inScript (object.render .unicode))

/-- The address of an article. -/
def articleUrl (domain slug : String) : String := "https://" ++ domain ++ "/" ++ slug

/-- The home page of a domain. -/
def homeUrl (domain : String) : String := "https://" ++ domain ++ "/"

/-- What kind of thing a page is about. Of other classes only the name is known. -/
inductive Subject where
  | article
  | application
  | list
  | questions
  | other (className : String)
deriving DecidableEq, Repr

/-- The class of a subject. -/
def Subject.className : Subject → String
  | .article => "Article"
  | .application => "WebApplication"
  | .list => "ItemList"
  | .questions => "FAQPage"
  | .other className => className

/-- The member that gives a subject's class. -/
def classMember (name : String) : String × Json := ("@type", .str name)

/-- The member that names the vocabulary. -/
def vocabularyMember : String × Json := ("@context", .str "https://schema.org")

/-- An organization. -/
def organization (name : String) : Json := .obj [classMember "Organization", ("name", .str name)]

/-- The text of a point in time, if there is one. -/
def timeMember (t : Option Timestamp) : Json := Json.ofText? (t.map Timestamp.isoText)

/-- The text of an article's description. -/
def Article.description (a : Article) : String := a.metaDescription.getD ""

/-- The number of words of an article, if it has any text. -/
def Article.wordCount? (a : Article) : Option Nat :=
  if a.contentMarkdown.isEmpty then none else some (Text.words a.contentMarkdown).length

/-- The members that describe an article as a subject. -/
def subjectMembers (a : Article) (domain : String) (subject : Subject) : List (String × Json) :=
  let url : Json := .str (articleUrl domain a.slug)
  let description : Json := .str a.description
  match subject with
  | .article =>
    [("headline", .str a.title), ("description", description), ("url", url),
     ("mainEntityOfPage", .obj [classMember "WebPage", ("@id", url)]),
     ("dateModified", timeMember (a.times.updated.orElse fun _ => a.times.published)),
     ("datePublished", timeMember a.times.published),
     ("inLanguage", .str "en"),
     ("wordCount", (a.wordCount?.map fun n => Json.int n).getD .null),
     ("author", organization domain), ("publisher", organization domain)]
  | .application =>
    [("name", .str a.title), ("description", description), ("url", url),
     ("applicationCategory", .str "FinanceApplication"), ("operatingSystem", .str "Any")]
  | .list => [("name", .str a.title), ("description", description), ("url", url)]
  | .questions => [("name", .str a.title), ("url", url)]
  | .other _ => []

/-- The description of an article as a subject. Further members replace those of the same name; the
subject `article` takes none. -/
def articleData (a : Article) (domain : String) (subject : Subject)
    (extra : List (String × Json)) : Markup :=
  let members := vocabularyMember :: classMember subject.className ::
    subjectMembers a domain subject
  let extra := if subject = .article then [] else extra
  linkedData (extra.foldl (fun ms (name, value) => Json.setField name value ms) members)

/-- The description of a site. -/
def siteData (domain title description : String) : Markup :=
  linkedData
    [vocabularyMember, classMember "WebSite", ("name", .str title), ("url", .str (homeUrl domain)),
     ("description", .str description), ("publisher", organization title)]

/-- A step on the way to a page. -/
def breadcrumb (position : Nat) (name url : String) : Json :=
  .obj [classMember "ListItem", ("position", .int position), ("name", .str name),
    ("item", .str url)]

/-- The way from the home page to a page, if its title and address are given. -/
def breadcrumbData (domain : String) (title url : Option String) : Markup :=
  let given (s : Option String) : Option String := s.filter fun s => !s.isEmpty
  let last := match given title, given url with
    | some title, some url => [breadcrumb 2 title url]
    | _, _ => []
  linkedData
    [vocabularyMember, classMember "BreadcrumbList",
     ("itemListElement", .arr (breadcrumb 1 "Home" (homeUrl domain) :: last))]

/-- A tag that gives a property of a page. -/
def propertyTag (property content : String) : Markup :=
  leaf "meta" [attr "property" property, attr "content" content]

/-- A tag that gives a named fact about a page. -/
def nameTag (name content : String) : Markup :=
  leaf "meta" [attr "name" name, attr "content" content]

/-- The tag for a point in time, if there is one. -/
def timeTags (property : String) (t : Option Timestamp) : List Markup :=
  (t.map fun t => propertyTag property t.isoText).toList

/-- The tags by which other sites show a link to an article. -/
def shareTags (a : Article) (domain : String) : Markup :=
  let url := articleUrl domain a.slug
  let tags :=
    [leaf "link" [attr "rel" "canonical", attr "href" url],
     propertyTag "og:title" a.title,
     propertyTag "og:description" a.description,
     propertyTag "og:url" url,
     propertyTag "og:type" "article",
     propertyTag "og:site_name" domain,
     propertyTag "og:locale" "en_US",
     nameTag "twitter:card" "summary",
     nameTag "twitter:title" a.title,
     nameTag "twitter:description" a.description] ++
    timeTags "article:published_time" a.times.published ++
    timeTags "article:modified_time" a.times.updated
  Markup.joinWith "\n  " (tags ++ [breadcrumbData domain a.title url])

end StaticSite
