import StaticSite.Proofs.Link.Kept
import StaticSite.Proofs.Page.Anchors

/-!
# What a page declares of its appearance

The body of a page made of blocks names a theme and a skin, and the head links to the fonts of the
theme and to the style sheet of the site. `bodies` and `stylesheets` read both off a page.

The fragment of a provider of advertisements may hold such tags as well. It stands behind the style
sheets of the page, which are the first ones (`hasStylesheets_blockPage`), and before its body,
which is the first one if the fragment holds none (`hasBody_blockPage`).
-/

namespace StaticSite

open Markup

/-! ### Reading the appearance -/

/-- The address of a style sheet, if a tag links to one. -/
def WrittenTag.stylesheet? (t : WrittenTag) : Option String :=
  if t.name = "link" ∧ t.attributes.lookup "rel" = some "stylesheet" then t.attributes.lookup "href"
  else none

/-- The attributes of a body, if a tag begins one. -/
def WrittenTag.body? (t : WrittenTag) : Option (List (String × String)) :=
  if t.name = "body" then some t.attributes else none

theorem WrittenTag.stylesheet?_eq_none {t : WrittenTag} (h : t.name ≠ "link") :
    t.stylesheet? = none := if_neg fun hlink => h hlink.1

theorem WrittenTag.body?_eq_none {t : WrittenTag} (h : t.name ≠ "body") : t.body? = none :=
  if_neg h

/-- The style sheets that a page links to, in order. -/
def stylesheets (page : String) : List String :=
  (readTags page.toList).filterMap WrittenTag.stylesheet?

/-- The attributes of the body of a page, for each tag that begins one. -/
def bodies (page : String) : List (List (String × String)) :=
  (readTags page.toList).filterMap WrittenTag.body?

/-- The reader of style sheets. -/
def stylesheetReader : TagReader String :=
  .ofTags WrittenTag.stylesheet? fun t ht => t.stylesheet?_eq_none fun h => by
    rw [h] at ht
    exact absurd ht (by decide)

theorem filterMap_stylesheetReader (page : String) :
    (tagTexts page.toList).filterMap stylesheetReader.value? = stylesheets page :=
  TagReader.filterMap_ofTags _

/-- The reader of bodies. -/
def bodyReader : TagReader (List (String × String)) :=
  .ofTags WrittenTag.body? fun t ht => t.body?_eq_none fun h => by
    rw [h] at ht
    exact absurd ht (by decide)

theorem filterMap_bodyReader (page : String) :
    (tagTexts page.toList).filterMap bodyReader.value? = bodies page :=
  TagReader.filterMap_ofTags _

/-! ### The head of a page -/

section

variable {β : Type} {g : WrittenTag → List β}

/-- The names of the tags in the head of a page, but for those of links. -/
def headNames : List String := ["html", "head", "meta", "title", "script"]

theorem PageShell.read_headStart (hg : ∀ name ∈ headNames, ∀ attrs, g ⟨name, attrs⟩ = [])
    (description : String) : (Markup.rows (headStart description)).read g = [] := by
  obtain ⟨hwhole, htags⟩ := doctype_spec
  have hdoctype : (html "<!DOCTYPE html>").read g = [] := read_of_tags_eq_nil htags
  unfold headNames at hg
  simp only [List.forall_mem_cons] at hg
  unfold headStart
  simp (disch := simp (disch := simp)) [hdoctype, hg]

namespace BlockContext

variable (ctx : BlockContext)

theorem read_shareTags (hg : ∀ name ∈ headNames, ∀ attrs, g ⟨name, attrs⟩ = []) :
    ctx.shareTags.read g = [] := by
  have hmeta (attrs : List (String × String)) : g ⟨"meta", attrs⟩ = [] := hg _ (by decide) attrs
  unfold BlockContext.shareTags timeTags propertyTag nameTag
  dsimp only
  cases ctx.published <;> cases ctx.updated <;> simp (disch := simp (disch := simp)) [hmeta]

/-- The lines of the head before those that link to fonts and style sheets. -/
def firstLines : List Markup :=
  PageShell.headStart ctx.description ++
    [.indent 2 <| el "title" [] (esc ctx.fullTitle),
     .indent 2 <| leaf "link" [attr "rel" "canonical", attr "href" ctx.canonicalUrl],
     .indent 2 <| ctx.shareTags]

/-- The lines of the head that link to fonts, to the style sheet of the site and to its icon. -/
def sheetLines (stylesheet : String) : List Markup :=
  ctx.fontLinks ++
    [.indent 2 <| PageShell.stylesheetLink stylesheet, .indent 2 <| PageShell.iconLink]

/-- The descriptions of a page as linked data. -/
def dataLine : Markup := .indent 2 <| ctx.pageData ++ html "\n  " ++ ctx.wayData

theorem headLines_eq (stylesheet : String) :
    ctx.headLines stylesheet = ctx.firstLines ++ (ctx.sheetLines stylesheet ++ [ctx.dataLine]) := by
  unfold headLines firstLines sheetLines dataLine
  simp only [List.append_assoc, List.cons_append, List.nil_append]

theorem isWhole_firstLines : (Markup.rows ctx.firstLines).IsWhole := by
  have hlines : (Markup.rows
      [.indent 2 <| el "title" [] (esc ctx.fullTitle),
       .indent 2 <| leaf "link" [attr "rel" "canonical", attr "href" ctx.canonicalUrl],
       .indent 2 <| ctx.shareTags]).IsWhole := by
    simp (disch := simp (disch := simp))
  unfold firstLines
  rw [Markup.rows_append]
  exact isWhole_append (PageShell.hasAnchors_headStart ctx.description).1 hlines

theorem read_firstLines (hg : ∀ name ∈ headNames, ∀ attrs, g ⟨name, attrs⟩ = []) :
    (Markup.rows ctx.firstLines).read g =
      g ⟨"link", [("rel", "canonical"), ("href", ctx.canonicalUrl)]⟩ := by
  have hshare := ctx.read_shareTags hg
  have htitle (attrs : List (String × String)) : g ⟨"title", attrs⟩ = [] := hg _ (by decide) attrs
  have hlines : (Markup.rows
      [.indent 2 <| el "title" [] (esc ctx.fullTitle),
       .indent 2 <| leaf "link" [attr "rel" "canonical", attr "href" ctx.canonicalUrl],
       .indent 2 <| ctx.shareTags]).read g =
        g ⟨"link", [("rel", "canonical"), ("href", ctx.canonicalUrl)]⟩ := by
    simp (disch := simp (disch := simp)) [hshare, htitle]
  unfold firstLines
  rw [Markup.rows_append, read_append (PageShell.hasAnchors_headStart ctx.description).1,
    PageShell.read_headStart hg, hlines, List.nil_append]

/-- The tags that link to fonts. -/
def fontTags : List WrittenTag :=
  ctx.fontUrl?.toList.flatMap fun url =>
    [⟨"link", [("rel", "preconnect"), ("href", "https://fonts.googleapis.com")]⟩,
     ⟨"link", [("rel", "preconnect"), ("href", "https://fonts.gstatic.com")]⟩,
     ⟨"link", [("rel", "stylesheet"), ("href", url)]⟩]

/-- The tags of the lines that link to fonts, to the style sheet of the site and to its icon. -/
def sheetTags (stylesheet : String) : List WrittenTag :=
  ctx.fontTags ++
    [⟨"link", [("rel", "stylesheet"), ("href", stylesheet)]⟩,
     ⟨"link", [("rel", "icon"), ("href", "/favicon.svg"), ("type", "image/svg+xml")]⟩]

theorem isTag_sheetLines (stylesheet : String) :
    List.Forall₂ Markup.IsTag (ctx.sheetLines stylesheet) (ctx.sheetTags stylesheet) := by
  have hlink {attrs : List Markup} (hattrs : ∀ a ∈ attrs, a.IsAttribute)
      {pairs : List (String × String)} (hpairs : attrs.flatMap attributes = pairs) :
      (Markup.indent 2 (leaf "link" attrs)).IsTag ⟨"link", pairs⟩ :=
    hpairs ▸ (Markup.isTag_startTag (by decide) hattrs).indent 2
  have hsheet (url : String) : (Markup.indent 2 (PageShell.stylesheetLink url)).IsTag
      ⟨"link", [("rel", "stylesheet"), ("href", url)]⟩ := hlink (by simp) (by simp)
  have hicon : (Markup.indent 2 PageShell.iconLink).IsTag
      ⟨"link", [("rel", "icon"), ("href", "/favicon.svg"), ("type", "image/svg+xml")]⟩ :=
    hlink (by simp) (by simp)
  have hlast (url : String) := List.Forall₂.cons (hsheet url) (.cons hicon .nil)
  unfold sheetLines sheetTags fontLinks fontTags
  cases ctx.fontUrl? with
  | none => exact hlast stylesheet
  | some url =>
    exact .cons (hlink (by simp) (by simp)) <| .cons (hlink (by simp) (by simp)) <|
      .cons (hsheet url) (hlast stylesheet)

theorem isWhole_dataLine : (Markup.rows [ctx.dataLine]).IsWhole := by
  unfold dataLine pageData wayData breadcrumbData
  split <;> simp (disch := simp (disch := simp))

theorem read_dataLine (hg : ∀ name ∈ headNames, ∀ attrs, g ⟨name, attrs⟩ = []) :
    (Markup.rows [ctx.dataLine]).read g = [] := by
  have hscript (attrs : List (String × String)) : g ⟨"script", attrs⟩ = [] :=
    hg _ (by decide) attrs
  have hdata (members : List (String × Json)) : (linkedData members).read g = [] := by
    unfold linkedData
    simp (disch := simp (disch := simp)) [hscript]
  unfold dataLine pageData wayData breadcrumbData
  split <;> simp (disch := simp (disch := simp)) [read_append, hdata]

theorem opensNext_dataLine (rest : List Char) :
    OpensNext (tagTexts ((Markup.rows [ctx.dataLine]).text.toList ++ rest)) := by
  have hattrs : ∀ a ∈ [attr "type" "application/ld+json"], a.IsAttribute := by simp
  obtain ⟨more, hmore⟩ : ∃ more, (Markup.rows [ctx.dataLine]).text.toList ++ rest =
      (Markup.indent 2 (startTag "script" [attr "type" "application/ld+json"])).text.toList ++
        more := by
    unfold dataLine pageData linkedData el
    simp only [Markup.toList_rows_cons, Markup.toList_indent, Markup.toList_append,
      List.append_assoc]
    exact ⟨_, rfl⟩
  rw [hmore]
  exact ((Markup.isTag_startTag (by decide) hattrs).indent 2).opensNext more

/-- What is read off the head of a page: the values of the links to fonts and style sheets, and what
follows. -/
theorem hasValues_headLines {w : WrittenTag → Option β}
    {hw : ∀ t, t.name.toList.head? = some 'a' → w t = none}
    (hnone : ∀ name ∈ headNames, ∀ attrs, w ⟨name, attrs⟩ = none)
    (hcanonical : w ⟨"link", [("rel", "canonical"), ("href", ctx.canonicalUrl)]⟩ = none)
    {first : Prop} {values : List β} {rest : List Char} (stylesheet : String)
    (h : (TagReader.ofTags w hw).HasValues first values
      (tagTexts ((Markup.rows [ctx.dataLine]).text.toList ++ rest))) :
    (TagReader.ofTags w hw).HasValues first
      ((ctx.sheetTags stylesheet).filterMap w ++ values)
      (tagTexts ((Markup.rows (ctx.headLines stylesheet)).text.toList ++ rest)) := by
  have hread : (Markup.rows ctx.firstLines).read (fun t => (w t).toList) = [] := by
    rw [ctx.read_firstLines fun name hname attrs => by rw [hnone name hname attrs]; rfl,
      hcanonical]
    rfl
  have hsheets := (h.rows (ctx.isTag_sheetLines stylesheet) (ctx.opensNext_dataLine rest)).1
  have hall := hsheets.behind_markup ctx.isWhole_firstLines fun _ => forall_of_read hread
  rw [headLines_eq, Markup.toList_rows_append, Markup.toList_rows_append]
  simpa only [List.append_assoc] using hall

end BlockContext

end

/-! ### The whole page -/

/-- Of the links in the head, those to style sheets are the ones to the fonts and to the sheet of
the site. -/
theorem BlockContext.filterMap_stylesheet?_sheetTags (ctx : BlockContext) (stylesheet : String) :
    (ctx.sheetTags stylesheet).filterMap WrittenTag.stylesheet? =
      ctx.fontUrl?.toList ++ [stylesheet] := by
  unfold sheetTags fontTags
  cases ctx.fontUrl? <;> simp [List.lookup_cons, WrittenTag.stylesheet?]

/-- **The first style sheets of a page** are the fonts of its theme, if it has any, and the style
sheet of the site. -/
theorem hasStylesheets_blockPage (blocks : List Block) (ctx : BlockContext) (stylesheet : String) :
    stylesheetReader.HasValues True (ctx.fontUrl?.toList ++ [stylesheet])
      (tagTexts (blockPage blocks ctx stylesheet).text.toList) := by
  have hnone : ∀ name ∈ headNames, ∀ attrs, WrittenTag.stylesheet? ⟨name, attrs⟩ = none :=
    fun name hname attrs => WrittenTag.stylesheet?_eq_none fun h => by
      obtain rfl : name = "link" := h
      exact absurd hname (by decide)
  have hcanonical : WrittenTag.stylesheet?
      ⟨"link", [("rel", "canonical"), ("href", ctx.canonicalUrl)]⟩ = none := by
    simp [WrittenTag.stylesheet?]
  rw [blockPage_eq, ← ctx.filterMap_stylesheet?_sheetTags, ← List.append_nil (List.filterMap _ _)]
  simp only [Markup.toList_append, List.append_assoc]
  exact ctx.hasValues_headLines hnone hcanonical stylesheet .nil

/-- A block begins with a tag that is no closing tag. -/
theorem Block.opensNext_wrapper (b : Block) (ctx : BlockContext) (rest : List Char) :
    OpensNext (tagTexts ((b.wrapper ctx).text.toList ++ rest)) := by
  have hel {name : String} {attrs : List Markup} (hname : isTagName name.toList = true)
      (hattrs : ∀ a ∈ attrs, a.IsAttribute) (contents : Markup) :
      OpensNext (tagTexts ((el name attrs contents).text.toList ++ rest)) := by
    unfold el
    rw [Markup.toList_append, Markup.toList_append, List.append_assoc, List.append_assoc]
    exact (Markup.isTag_startTag hname hattrs).opensNext _
  unfold wrapper
  dsimp only
  split
  · exact hel (by decide) (by simp) _
  · exact hel (by decide) (by simp) _

/-- The line that begins the body of a page. -/
def BlockContext.bodyLine (ctx : BlockContext) : Markup :=
  startTag "body" [attr "data-theme" ctx.theme, attr "data-skin" ctx.skin]

namespace BlockPage

/-- The body of a page begins with its tag, and no closing tag comes next. -/
theorem exists_lines_ofBlocks (blocks : List Block) (ctx : BlockContext) :
    ∃ after, (ofBlocks ctx blocks).lines ctx = [endTag "head"] ++ ([ctx.bodyLine] ++ after) ∧
      ∀ rest, OpensNext (tagTexts ((Markup.rows after).text.toList ++ rest)) := by
  refine ⟨_, rfl, fun rest => ?_⟩
  rw [Markup.toList_rows_cons, Markup.toList_rows_cons, header_ofBlocks, List.append_assoc,
    List.cons_append, List.append_assoc]
  -- The header is a block, or it is missing and the column of the page comes next.
  cases (blocks.filter fun b => b.type == "Header").getLast? with
  | none => exact (Markup.isTag_startTag (by decide) (by simp)).opensNext _
  | some b => exact b.opensNext_wrapper ctx _

end BlockPage

theorem body?_eq_none_of_mem_headNames {name : String} (hname : name ∈ "link" :: headNames)
    (attrs : List (String × String)) : WrittenTag.body? ⟨name, attrs⟩ = none :=
  WrittenTag.body?_eq_none fun h => by
    obtain rfl : name = "body" := h
    exact absurd hname (by decide)

namespace BlockContext

variable (ctx : BlockContext)

/-- What stands between the links in the head of a page and its body: the descriptions as linked
data and the fragment of a provider. -/
def headEnd : Markup :=
  Markup.rows [ctx.dataLine] ++ ctx.headFragment ++ Markup.rows [endTag "head"]

/-- The tag that ends the head also ends the fragment. -/
theorem headEnd_spec :
    ctx.headEnd.IsWhole ∧
      ctx.headEnd.tags = (Markup.rows [ctx.dataLine]).tags ++ ctx.headScripts.tags := by
  have hend : (Markup.rows [endTag "head"]).IsWhole := by simp
  obtain ⟨hwhole, htags⟩ := hend.behind ((beginsWithTag_endTag "head").rows_cons [])
    (Markup.rows [ctx.dataLine] ++ ctx.headFragment)
  refine ⟨hwhole, htags.trans ?_⟩
  rw [tags_append ctx.isWhole_dataLine, tags_rows_singleton (endTag "head"),
    tags_endTag (by decide), List.append_nil, headFragment,
    tags_rows_singleton (.indent 2 ctx.headScripts), tags_indent]

theorem body?_eq_none_of_mem_headEnd (hfirst : bodies ctx.headScripts.text = []) :
    ∀ t ∈ ctx.headEnd.tags, t.body? = none := by
  have hdata : (Markup.rows [ctx.dataLine]).read (fun t => t.body?.toList) = [] :=
    ctx.read_dataLine fun name hname attrs => by
      rw [body?_eq_none_of_mem_headNames (List.mem_cons_of_mem _ hname) attrs]
      rfl
  rw [ctx.headEnd_spec.2, List.forall_mem_append]
  exact ⟨forall_of_read hdata, List.filterMap_eq_nil_iff.mp hfirst⟩

theorem isTag_bodyLine : ctx.bodyLine.IsTag
    ⟨"body", [("data-theme", ctx.theme), ("data-skin", ctx.skin)]⟩ := by
  have htag : (startTag "body" [attr "data-theme" ctx.theme, attr "data-skin" ctx.skin]).IsTag _ :=
    Markup.isTag_startTag (by decide) (by simp)
  simpa [bodyLine] using htag

theorem filterMap_body?_sheetTags (stylesheet : String) :
    (ctx.sheetTags stylesheet).filterMap WrittenTag.body? = [] := by
  unfold sheetTags fontTags
  cases ctx.fontUrl? <;> simp [WrittenTag.body?]

end BlockContext

/-- **The body of a page** names its theme and its skin. It is the first one, unless the fragment of
a provider has another. -/
theorem hasBody_blockPage (blocks : List Block) (ctx : BlockContext) (stylesheet : String) :
    bodyReader.HasValues (bodies ctx.headScripts.text = [])
      [[("data-theme", ctx.theme), ("data-skin", ctx.skin)]]
      (tagTexts (blockPage blocks ctx stylesheet).text.toList) := by
  obtain ⟨after, hlines, hnext⟩ := BlockPage.exists_lines_ofBlocks blocks ctx
  have hbody (rest : List Char) : bodyReader.HasValues (bodies ctx.headScripts.text = [])
      [[("data-theme", ctx.theme), ("data-skin", ctx.skin)]]
      (tagTexts ((Markup.rows [ctx.bodyLine]).text.toList ++
        ((Markup.rows after).text.toList ++ rest))) :=
    (TagReader.HasValues.rows (.cons ctx.isTag_bodyLine .nil) (hnext rest) .nil).1
  -- Neither the end of the head nor its lines have a body.
  have hhead (rest : List Char) :=
    (hbody rest).behind_markup ctx.headEnd_spec.1 ctx.body?_eq_none_of_mem_headEnd
  unfold BlockContext.headEnd at hhead
  rw [blockPage_eq, hlines, Markup.rows_append, Markup.rows_append]
  simp only [Markup.toList_append, List.append_assoc] at hhead ⊢
  have hpage (rest : List Char) := ctx.hasValues_headLines
    (fun name hname => body?_eq_none_of_mem_headNames (List.mem_cons_of_mem _ hname))
    (body?_eq_none_of_mem_headNames List.mem_cons_self _) stylesheet (hhead rest)
  rw [ctx.filterMap_body?_sheetTags, List.nil_append] at hpage
  exact hpage _

end StaticSite
