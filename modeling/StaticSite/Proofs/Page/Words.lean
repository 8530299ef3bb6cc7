import StaticSite.Page.Blocks
import StaticSite.Page.Embed
import StaticSite.Proofs.Html.Brackets
import StaticSite.Proofs.Page.Contents

/-!
# Titles and descriptions are text

The title and the description of a page are written by hand, and they stand in many places: in the
title and the heading of the page, in the attributes of the tags by which it is shared, and in its
linked data. `words_never_become_markup` says that whatever they are, the angle brackets of the page
stay the same, so nothing in them opens or closes a tag. It covers the pages of articles, those made
of blocks, and those shown on other sites.

A page is compared with the same page under other words. What does not read the words is equal on
both: what the type of an article contributes, the notes around it, and every block. What reads them
puts them into an attribute, an escaped text, or linked data, and the brackets of these do not
depend on what is put there.
-/

namespace StaticSite

open Markup

/-- An article under another title and description. -/
def Article.withWords (a : Article) (title : String) (description : Option String) : Article :=
  { a with title, metaDescription := description }

/-- A page made of blocks under another title and description. -/
def BlockContext.withWords (ctx : BlockContext) (title description : Option String) :
    BlockContext :=
  { ctx with pageTitle := title, pageDescription := description }

/-! ### Linked data and tags -/

/-- Linked data has the brackets of its element only, whatever its members. -/
theorem brackets_linkedData (members : List (String × Json)) :
    (linkedData members).brackets = ['<', '>', '<', '>'] := by
  unfold linkedData
  rw [brackets_el, brackets_inScript]
  rfl

/-- An article is described as any other: the brackets are those of linked data. -/
theorem brackets_articleData (a : Article) (domain : String) (subject : Subject)
    (extra : List (String × Json)) :
    (articleData a domain subject extra).brackets = ['<', '>', '<', '>'] :=
  brackets_linkedData _

theorem brackets_breadcrumbData (domain : String) (title url : Option String) :
    (breadcrumbData domain title url).brackets = ['<', '>', '<', '>'] :=
  brackets_linkedData _

/-- The brackets of a tag for a property do not depend on what it says. -/
theorem brackets_propertyTag (property content : String) :
    (propertyTag property content).brackets = ['<', '>'] := by
  unfold propertyTag
  rw [brackets_leaf, brackets_startTag, List.flatMap_cons, List.flatMap_cons, brackets_attr,
    brackets_attr]
  rfl

theorem brackets_nameTag (name content : String) :
    (nameTag name content).brackets = ['<', '>'] := by
  unfold nameTag
  rw [brackets_leaf, brackets_startTag, List.flatMap_cons, List.flatMap_cons, brackets_attr,
    brackets_attr]
  rfl

/-- The description stands in an attribute at the beginning of the head. -/
theorem brackets_headStart (description other : String) :
    (PageShell.headStart description).flatMap brackets =
      (PageShell.headStart other).flatMap brackets := by
  unfold PageShell.headStart
  simp only [List.flatMap_cons, brackets_indent, brackets_leaf, brackets_startTag, brackets_attr]

/-! ### Articles -/

section Articles

variable (a : Article) (title : String) (description : Option String)

/-- The title and the description of an article contribute nothing by themselves. -/
theorem ofArticle_withWords (ctx : ArticleContext) :
    ArticleParts.ofArticle (a.withWords title description) ctx = ArticleParts.ofArticle a ctx :=
  ArticleParts.ofArticle_congr ⟨rfl, rfl, rfl, rfl, rfl, rfl, rfl, rfl⟩
    (ArticleParts.leadCapture_congr rfl rfl) fun mode => ArticleParts.wizard_congr rfl rfl mode

/-- The tags by which an article is shared hold its words in attributes and in linked data. -/
theorem brackets_shareTags_withWords (domain : String) :
    (shareTags (a.withWords title description) domain).brackets =
      (shareTags a domain).brackets := by
  unfold shareTags
  rw [brackets_joinWith rfl, brackets_joinWith rfl]
  simp only [List.flatMap_append, List.flatMap_cons, brackets_propertyTag, brackets_nameTag,
    brackets_breadcrumbData, Article.withWords]

/-- Between header and footer the words of an article stand in its linked data and its heading. -/
theorem brackets_body_withWords (p : ArticleParts) (ctx : ArticleContext) :
    (p.body (a.withWords title description) ctx).brackets = (p.body a ctx).brackets := by
  have hheading (s : String) : (el "h1" [] (esc s)).brackets = (el "h1" [] .empty).brackets := by
    rw [brackets_el, brackets_el, brackets_esc]
    rfl
  -- The heading is the only element that shows the title; the rest is the same under other words.
  unfold ArticleParts.body
  simp only [brackets_stack, List.flatMap_cons, brackets_articleData, brackets_lines, hheading]
  rfl

/-- The frame of a site adds the same brackets to contents and heads that have the same ones. -/
theorem brackets_wrap {shell : PageShell} {head other : PageShell.PageHead} {m n : Markup}
    (hextra : head.extra.brackets = other.extra.brackets) (hcontents : m.brackets = n.brackets) :
    (shell.wrap head m).brackets = (shell.wrap other n).brackets := by
  have hcolumns : (shell.columns m).brackets = (shell.columns n).brackets := by
    unfold PageShell.columns
    cases shell.hasSidebar <;> simp [hcontents]
  -- The title is escaped, the description stands in an attribute, and the rest is the frame's own.
  unfold PageShell.wrap
  simp only [brackets_rows, List.flatMap_append, List.flatMap_cons, brackets_indent, brackets_el,
    brackets_esc, hextra, hcolumns, brackets_headStart head.description other.description]

theorem brackets_page_withWords (p : ArticleParts) (ctx : ArticleContext) :
    (p.page (a.withWords title description) ctx).map brackets = (p.page a ctx).map brackets := by
  unfold ArticleParts.page
  cases ctx.shell with
  | none => rfl
  | some shell =>
    exact congrArg Except.ok <| brackets_wrap
      (brackets_shareTags_withWords a title description ctx.domain)
      (brackets_body_withWords a title description p ctx)

/-- **The brackets of an article's page do not depend on its words.** If the page cannot be made, it
cannot be made under other words either, for the same reason. -/
theorem brackets_articlePage_withWords (ctx : ArticleContext) :
    (articlePage (a.withWords title description) ctx).map brackets =
      (articlePage a ctx).map brackets := by
  unfold articlePage
  rw [ofArticle_withWords]
  cases ArticleParts.ofArticle a ctx with
  | error e => simp only [bind, Except.bind]
  | ok p =>
    simp only [bind, Except.bind]
    exact brackets_page_withWords a title description p ctx

/-- The brackets of a page that is shown on other sites do not depend on the words of the
article. -/
theorem brackets_embedPage?_withWords (domain : String) :
    (embedPage? (a.withWords title description) domain).map brackets =
      (embedPage? a domain).map brackets := by
  have htype : (a.withWords title description).contentType = a.contentType := rfl
  have hwidget : embeddedWidget (a.withWords title description) domain = embeddedWidget a domain :=
    rfl
  -- The widget reads no words, and the page shows the title in an escaped text.
  unfold embedPage?
  rw [htype, hwidget]
  cases a.contentType.isEmbeddable with
  | false => simp only [Bool.not_false, if_true]
  | true =>
    simp only [Bool.not_true, Bool.false_eq_true, if_false, Option.map_some, brackets_rows,
      List.flatMap_cons, brackets_el, brackets_esc]

end Articles

/-! ### Pages made of blocks -/

section Blocks

variable (ctx : BlockContext) (title description : Option String)

/-- No block reads the words of the page it stands on. -/
theorem markup_withWords (b : Block) :
    b.markup (ctx.withWords title description) = b.markup ctx := by
  have hrender (kind : BlockKind) :
      kind.render b (ctx.withWords title description) = kind.render b ctx := by
    cases kind <;> rfl
  unfold Block.markup
  simp only [hrender]

/-- The blocks of a page are put in the same places under other words. -/
theorem ofBlocks_withWords (blocks : List Block) :
    BlockPage.ofBlocks (ctx.withWords title description) blocks =
      BlockPage.ofBlocks ctx blocks := by
  have hadd : BlockPage.add (ctx.withWords title description) = BlockPage.add ctx := by
    funext p b
    unfold BlockPage.add Block.wrapper
    rw [markup_withWords]
  unfold BlockPage.ofBlocks
  rw [hadd]

theorem brackets_blockShareTags_withWords :
    (ctx.withWords title description).shareTags.brackets = ctx.shareTags.brackets := by
  unfold BlockContext.shareTags
  rw [brackets_joinWith rfl, brackets_joinWith rfl]
  simp only [List.flatMap_append, List.flatMap_cons, brackets_propertyTag, brackets_nameTag,
    BlockContext.withWords]

/-- The way to a page is linked data, whether or not the page has a title to name it by. -/
theorem brackets_wayData : ctx.wayData.brackets = ['<', '>', '<', '>'] := by
  unfold BlockContext.wayData
  split <;> exact brackets_breadcrumbData _ _ _

/-- **The brackets of a page made of blocks do not depend on its words.** -/
theorem brackets_blockPage_withWords (blocks : List Block) (stylesheet : String) :
    (blockPage blocks (ctx.withWords title description) stylesheet).brackets =
      (blockPage blocks ctx stylesheet).brackets := by
  have hdata (c : BlockContext) : c.pageData.brackets = ['<', '>', '<', '>'] :=
    brackets_linkedData _
  have hfonts : (ctx.withWords title description).fontLinks = ctx.fontLinks := rfl
  unfold blockPage
  rw [ofBlocks_withWords, hfonts]
  simp only [brackets_rows, List.flatMap_append, List.flatMap_cons, brackets_indent,
    brackets_append, brackets_el, brackets_esc, brackets_leaf, brackets_startTag, brackets_attr,
    brackets_blockShareTags_withWords, brackets_wayData, hdata,
    brackets_headStart (ctx.withWords title description).description ctx.description]
  rfl

end Blocks

/-! ### All pages -/

/-- **A title or a description never becomes markup.** Whatever words are chosen for it, the page of
an article has the same angle brackets, or cannot be made for the same reason; so has a page made of
blocks; and so has the page that shows the widget of an article on other sites. -/
theorem words_never_become_markup :
    (∀ (a : Article) (ctx : ArticleContext) (title title' : String)
        (description description' : Option String),
      (articlePage (a.withWords title description) ctx).map brackets =
        (articlePage (a.withWords title' description') ctx).map brackets) ∧
    (∀ (blocks : List Block) (ctx : BlockContext) (stylesheet : String)
        (title title' description description' : Option String),
      (blockPage blocks (ctx.withWords title description) stylesheet).brackets =
        (blockPage blocks (ctx.withWords title' description') stylesheet).brackets) ∧
    (∀ (a : Article) (domain title title' : String) (description description' : Option String),
      (embedPage? (a.withWords title description) domain).map brackets =
        (embedPage? (a.withWords title' description') domain).map brackets) := by
  -- Both sides have the brackets of the page with the words that were there before.
  refine ⟨fun a ctx title title' description description' => ?_,
    fun blocks ctx stylesheet title title' description description' => ?_,
    fun a domain title title' description description' => ?_⟩
  · rw [brackets_articlePage_withWords, brackets_articlePage_withWords]
  · rw [brackets_blockPage_withWords, brackets_blockPage_withWords]
  · rw [brackets_embedPage?_withWords, brackets_embedPage?_withWords]

end StaticSite
