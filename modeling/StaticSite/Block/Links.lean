import StaticSite.Block.Context
import StaticSite.Block.Scripts
import StaticSite.Html.Script
import StaticSite.Site.Route
import StaticSite.Text.Find

/-!
# Downloads, embedded pages and links

Blocks that lead to something else: a document to download, an embedded page, and cards that link
to resources and articles.
-/

namespace StaticSite.Block

/-! ### Downloads -/

/-- The address of the document of a block: its own, or that of the document of an article. -/
def documentUrl? (b : Block) : Option String :=
  (b.content.text? "url").orElse fun _ =>
    (b.content.text? "articleId").map fun id =>
      "/api/articles/" ++ id ++ "/pdf?type=" ++ (b.config.text? "type").getD "article"

/-- A document to download. -/
def openDownload (url button : String) (description : Markup) : Markup :=
  Markup.lines
    [startTag "div" [cls "pdf-download"],
     .indent 2 <| el "span" [cls "pdf-icon"] (esc "📄"),
     .indent 2 <| startTag "div" [cls "pdf-content"],
     .indent 4 <| description,
     .indent 4 <| el "a" [attr "href" url, cls "pdf-download-btn", flag "download"] (esc button),
     .indent 2 <| endTag "div",
     endTag "div"]

/-- A document to download once a mail address is given. -/
def gatedDownload (id url button : String) (description : Markup) : Markup :=
  Markup.lines
    [startTag "div" [cls "pdf-download", attr "id" id],
     .indent 2 <| el "span" [cls "pdf-icon"] (esc "📄"),
     .indent 2 <| startTag "div" [cls "pdf-content"],
     .indent 4 <| description,
     .indent 4 <| el "p" [cls "pdf-gate-text"] (esc "Enter your email to download:"),
     .indent 4 <| startTag "form" [cls "pdf-gate-form"],
     .indent 6 <| leaf "input"
      [attr "type" "email", attr "name" "email", attr "placeholder" "your@email.com",
       flag "required"],
     .indent 6 <| el "button" [attr "type" "submit"] (esc button),
     .indent 4 <| endTag "form",
     .indent 4 <| el "a"
      [attr "href" url, cls "pdf-download-btn", attr "style" "display:none", flag "download"]
      (esc button),
     .indent 2 <| endTag "div",
     endTag "div",
     script (gateScript (Json.str id).inScript)]

/-- A document to download, if there is one. -/
def pdfDownload (b : Block) : Markup :=
  Markup.whenSome (documentUrl? b) fun url =>
    let button := (b.content.text? "buttonText").getD "Download PDF"
    let description := textIn "p" "pdf-desc" (b.content.text? "description")
    if b.config.flag "gated" false then
      gatedDownload ("pdf-gate-" ++ b.id) url button description
    else openDownload url button description

/-! ### Embedded pages -/

/-- The slug of the page that a block embeds, if it can stand in a path. -/
def embeddedSlug? (b : Block) : Option String :=
  ((b.content.text? "slug").orElse fun _ => b.content.text? "sourceBlockId").filter
    Route.isSafeSlug

/-- An embedded page. -/
def embedWidget (b : Block) : Markup :=
  let title := (b.content.text? "title").getD "Widget"
  let heading := el "h3" [cls "embed-title"] (esc title)
  match embeddedSlug? b with
  | none =>
    el "div" [cls "embed-widget"]
      (heading ++
        el "p" [cls "embed-placeholder"] (esc "Embed widget: no source configured"))
  | some slug =>
    let width := (b.config.text? "width").getD "100%"
    let height := (b.config.text? "height").getD "600px"
    Markup.lines
      [startTag "div" [cls "embed-widget"],
       .indent 2 <| heading,
       .indent 2 <| startTag "div" [cls "embed-container", attr "style" ("max-width:" ++ width)],
       .indent 4 <| el "iframe"
        [attr "src" ("/embed/" ++ slug ++ ".html"), attr "loading" "lazy", attr "title" title,
         attr "style" ("width:100%;height:" ++ height ++ ";border:none"), flag "allowfullscreen",
         attr "sandbox" "allow-scripts allow-same-origin allow-forms"]
        .empty,
       .indent 2 <| endTag "div",
       endTag "div"]

/-! ### Cards that link -/

/-- The card of a resource. -/
def resourceCard (r : Fields) : Markup :=
  Markup.lines
    [startTag "a" [attr "href" ((r.text? "href").getD "#"), cls "resource-card"],
     .indent 2 <| el "span" [cls "resource-icon"] (esc (r.text "icon")),
     .indent 2 <| el "h3" [cls "resource-title"] (esc (r.text "title")),
     .indent 2 <| el "p" [cls "resource-desc"] (esc (r.text "description")),
     endTag "a"]

/-- Cards of resources. -/
def resourceGrid (b : Block) : Markup :=
  let resources := b.content.recordsWith "items" "title"
  let heading := (b.content.text? "heading").getD "More Resources"
  Markup.when (!resources.isEmpty)
    (Markup.lines
      [startTag "section" [cls "resource-grid-section"],
       .indent 2 <| startTag "div" [cls "resource-grid-banner"],
       .indent 4 <| el "h2" [] (esc heading),
       .indent 2 <| endTag "div",
       .indent 2 <| startTag "div" [cls "site-container"],
       .indent 4 <| el "div" [cls "resource-grid"] (Markup.lines (resources.map resourceCard)),
       .indent 2 <| endTag "div",
       endTag "section"])

/-- Whether a character may stand in the address of an image. -/
def isImageChar (c : Char) : Bool := !(['\'', '"', '(', ')'].contains c)

/-- Whether an address can stand in a style as the address of an image. -/
def isSafeImage (url : String) : Bool :=
  let cs := url.toList
  let rest := ["https://", "http://", "/"].findSome? fun start =>
    Text.stripPrefix? start.toList cs
  match rest with
  | some (c :: rest) => (c :: rest).all isImageChar
  | _ => false

/-- The image of the card of an article. -/
def articleImage (a : Fields) : Markup :=
  match (a.text? "image").filter isSafeImage with
  | some url =>
    html "<div class=\"article-card-img\" style=\"background-image:url('" ++ esc url ++
      html "')\">" ++ endTag "div"
  | none => el "div" [cls "article-card-img article-card-img--placeholder"] .empty

/-- The card of an article. -/
def articleCard (a : Fields) : Markup :=
  Markup.lines
    [startTag "a" [attr "href" ((a.text? "href").getD "#"), cls "article-card"],
     .indent 2 <| articleImage a,
     .indent 2 <| startTag "div" [cls "article-card-body"],
     .indent 4 <| el "h3" [cls "article-card-title"] (esc (a.text "title")),
     .indent 4 <| el "p" [cls "article-card-excerpt"] (esc (a.text "excerpt")),
     .indent 2 <| endTag "div",
     endTag "a"]

/-- Cards of articles. -/
def latestArticles (b : Block) : Markup :=
  let articles := b.content.recordsWith "articles" "title"
  let heading := (b.content.text? "heading").getD "Latest Articles"
  Markup.when (!articles.isEmpty)
    (Markup.lines
      [startTag "section" [cls "latest-articles-section"],
       .indent 2 <| startTag "div" [cls "site-container"],
       .indent 4 <| startTag "div" [cls "latest-articles-banner"],
       .indent 6 <| el "h2" [] (esc heading),
       .indent 4 <| endTag "div",
       .indent 4 <| el "div" [cls "latest-articles-grid"] (Markup.lines (articles.map articleCard)),
       .indent 2 <| endTag "div",
       endTag "section"])

end StaticSite.Block
