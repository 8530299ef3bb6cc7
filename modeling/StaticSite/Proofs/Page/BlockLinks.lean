import StaticSite.Page.Blocks
import StaticSite.Proofs.Page.Frame

/-!
# The links of a page made of blocks

A page made of blocks is a document of its own, without the frame of a site. Its head has the
canonical link, links to fonts, and links to the style sheet and to the icon
(`BlockContext.headLinks`); all other links come from its blocks or from the fragments of a provider
of advertisements (`links_blockPage`).

A block may leave a tag open as the fragments may, but it stands in an element of its own
(`Block.hasLinks_wrapper`), so that the page around it is read as it was written.
-/

namespace StaticSite

open Markup (HasLinks)

/-! ### Blocks in their places -/

/-- **Markup is closed**: wherever it stands, it has the links that it has alone. -/
def Markup.IsClosed (m : Markup) : Prop := m.HasLinks m.links

theorem Markup.HasLinks.isClosed {m : Markup} {l : List String} (h : m.HasLinks l) :
    m.IsClosed := by
  unfold IsClosed
  rwa [h.links_eq]

/-- A block as it stands on a page has the links of its contents, whatever these are. -/
theorem Block.hasLinks_wrapper (b : Block) (ctx : BlockContext) :
    (b.wrapper ctx).HasLinks (b.markup ctx).links := by
  unfold wrapper
  dsimp only
  split
  · have htag : (startTag "div"
        [attr "data-block-id" b.id, attr "data-block-type" b.type]).HasLinks [] :=
      .startTag rfl [("data-block-id", b.id), ("data-block-type", b.type)] (by simp [isMarkupName])
    exact .el rfl htag _
  · have hflag : ∀ m ∈ [flag "data-animate"], ∀ c ∈ ['"', '<', '>'], c ∉ m.text.toList :=
      List.forall_mem_singleton.mpr (Markup.notMem_toList_flag rfl)
    have htag (o : Option String) : (startTag "section"
        ([attr "data-block-id" b.id, attr "data-block-type" b.type] ++
          [attr? "data-block-variant" o, flag "data-animate"])).HasLinks [] := by
      cases o with
      | none =>
        exact .startTag_append rfl [("data-block-id", b.id), ("data-block-type", b.type)]
          (by simp [isMarkupName]) (List.forall_mem_cons.mpr ⟨fun _ _ => List.not_mem_nil, hflag⟩)
      | some variant =>
        exact .startTag_append rfl
          [("data-block-id", b.id), ("data-block-type", b.type), ("data-block-variant", variant)]
          (by simp [isMarkupName]) hflag
    exact .el rfl (htag _) _

namespace BlockPage

/-- The places of a page hold closed markup. -/
structure IsClosed (p : BlockPage) : Prop where
  header : p.header.IsClosed
  sections : ∀ m ∈ p.sections, m.IsClosed
  footer : p.footer.IsClosed

theorem IsClosed.add {p : BlockPage} (h : p.IsClosed) (ctx : BlockContext) (b : Block) :
    (p.add ctx b).IsClosed := by
  have hb : (b.wrapper ctx).IsClosed := (b.hasLinks_wrapper ctx).isClosed
  unfold BlockPage.add
  split
  · exact ⟨hb, h.sections, h.footer⟩
  · split
    · exact ⟨h.header, h.sections, hb⟩
    · exact ⟨h.header, List.forall_mem_append.mpr ⟨h.sections, List.forall_mem_singleton.mpr hb⟩,
        h.footer⟩

theorem IsClosed.foldl_add {p : BlockPage} (h : p.IsClosed) (ctx : BlockContext)
    (blocks : List Block) : (blocks.foldl (BlockPage.add ctx) p).IsClosed := by
  induction blocks generalizing p with
  | nil => exact h
  | cons b blocks ih => exact ih (h.add ctx b)

theorem isClosed_ofBlocks (ctx : BlockContext) (blocks : List Block) :
    (ofBlocks ctx blocks).IsClosed := by
  have hempty : Markup.empty.IsClosed := HasLinks.isClosed (.of_notMem List.not_mem_nil)
  have hnone : ({} : BlockPage).IsClosed := ⟨hempty, fun _ h => absurd h List.not_mem_nil, hempty⟩
  exact hnone.foldl_add ctx blocks

/-- The parts of a page that come from its blocks. -/
def parts (p : BlockPage) : List Markup := p.header :: p.sections ++ [p.footer]

theorem sections_foldl_add (p : BlockPage) (ctx : BlockContext) (blocks : List Block) :
    (blocks.foldl (add ctx) p).sections = p.sections ++
      (blocks.filter fun b => !(b.type == "Header" || b.type == "Footer")).map (·.wrapper ctx) := by
  induction blocks generalizing p with
  | nil => exact (List.append_nil _).symm
  | cons b blocks ih =>
    rw [List.foldl_cons, ih, add, List.filter_cons]
    cases b.type == "Header" with
    | true => rfl
    | false =>
      cases b.type == "Footer" with
      | true => rfl
      | false => exact List.append_assoc ..

/-- Every block of a page that is neither a header nor a footer is a part of it. -/
theorem wrapper_mem_parts {ctx : BlockContext} {blocks : List Block} {b : Block} (hb : b ∈ blocks)
    (hplace : (b.type == "Header" || b.type == "Footer") = false) :
    b.wrapper ctx ∈ (ofBlocks ctx blocks).parts := by
  have hsections : (ofBlocks ctx blocks).sections =
      (blocks.filter fun b => !(b.type == "Header" || b.type == "Footer")).map (·.wrapper ctx) :=
    sections_foldl_add {} ctx blocks
  refine List.mem_append_left _ (List.mem_cons_of_mem _ ?_)
  rw [hsections]
  refine List.mem_map_of_mem (List.mem_filter.mpr ⟨hb, ?_⟩)
  rw [hplace, Bool.not_false]

end BlockPage

/-! ### The head of a page -/

theorem hasLinks_propertyTag (property content : String) :
    (propertyTag property content).HasLinks [] :=
  .startTag rfl [("property", property), ("content", content)] (by simp [isMarkupName])

theorem hasLinks_nameTag (name content : String) : (nameTag name content).HasLinks [] :=
  .startTag rfl [("name", name), ("content", content)] (by simp [isMarkupName])

theorem hasLinks_of_mem_timeTags {property : String} {t : Option Timestamp} {m : Markup}
    (hm : m ∈ timeTags property t) : m.HasLinks [] := by
  obtain ⟨time, -, rfl⟩ := Option.map_eq_some_iff.mp (Option.mem_toList.mp hm)
  exact hasLinks_propertyTag property time.isoText

namespace BlockContext

variable (ctx : BlockContext)

theorem hasLinks_shareTags : ctx.shareTags.HasLinks [] := by
  refine .joinWith_none (by decide) ?_
  simp only [List.forall_mem_append, List.forall_mem_cons]
  refine ⟨⟨⟨?_, ?_, ?_, ?_, ?_, ?_, ?_, ?_, ?_, fun _ h => absurd h List.not_mem_nil⟩,
    fun _ => hasLinks_of_mem_timeTags⟩, fun _ => hasLinks_of_mem_timeTags⟩
  -- Six tags give properties, and three give names.
  iterate 6 exact hasLinks_propertyTag _ _
  all_goals exact hasLinks_nameTag _ _

/-- The addresses of the links to fonts. -/
def fontTargets : List String :=
  match ctx.fontUrl? with
  | none => []
  | some url => ["https://fonts.googleapis.com", "https://fonts.gstatic.com", (esc url).text]

theorem hasLinks_stylesheetLink (href : String) :
    (PageShell.stylesheetLink href).HasLinks [(esc href).text] :=
  .startTag rfl [("rel", "stylesheet"), ("href", href)] (by simp [isMarkupName])

theorem hasLinks_fontLinks : (Markup.rows ctx.fontLinks).HasLinks ctx.fontTargets := by
  unfold fontLinks fontTargets
  cases ctx.fontUrl? with
  | none => exact .rows_nil
  | some url =>
    have hplain : (leaf "link" [attr "rel" "preconnect",
        attr "href" "https://fonts.googleapis.com"]).HasLinks ["https://fonts.googleapis.com"] :=
      .startTag rfl [("rel", "preconnect"), ("href", "https://fonts.googleapis.com")] rfl
    have hcross : (leaf "link" [attr "rel" "preconnect", attr "href" "https://fonts.gstatic.com",
        flag "crossorigin"]).HasLinks ["https://fonts.gstatic.com"] :=
      .startTag_append rfl [("rel", "preconnect"), ("href", "https://fonts.gstatic.com")] rfl
        (List.forall_mem_singleton.mpr (Markup.notMem_toList_flag rfl))
    exact .rows_cons (.indent hplain 2) <| .rows_cons (.indent hcross 2) <|
      .rows_singleton (.indent (hasLinks_stylesheetLink url) 2)

/-- The first character of a text, read off the list of its characters. -/
theorem head?_toList_ofList_append (c : Char) (cs more : List Char) :
    ((String.ofList (c :: cs)).toList ++ more).head? = some c := by
  rw [String.toList_ofList]
  rfl

/-- An address that begins with a letter leads out of the site, also when it is written. -/
theorem startsWith_slash_esc {url : String} (h : url.toList.head? = some 'h') :
    Text.startsWith (esc url).text "/" = false := by
  obtain ⟨rest, hrest⟩ := List.head?_eq_some_iff.mp h
  have htext : (esc url).text.toList = 'h' :: rest.flatMap Markup.escapeChar := by
    show (String.ofList (url.toList.flatMap Markup.escapeChar)).toList = _
    rw [String.toList_ofList, hrest]
    rfl
  rw [Text.startsWith, htext]
  rfl

/-- No link to fonts stays within the site. -/
theorem startsWith_slash_of_mem_fontTargets :
    ∀ link ∈ ctx.fontTargets, Text.startsWith link "/" = false := by
  have htheme (t : Theme) : ∀ url ∈ t.fontUrl?, url.toList.head? = some 'h' := by
    intro url hurl
    cases t <;> cases hurl <;>
      (simp only [String.toList_append, List.append_assoc]
       exact head?_toList_ofList_append _ _ _)
  unfold fontTargets
  cases hurl : ctx.fontUrl? with
  | none => exact fun _ h => absurd h List.not_mem_nil
  | some url =>
    simp only [List.forall_mem_cons]
    exact ⟨by decide, by decide, startsWith_slash_esc (htheme _ url hurl),
      fun _ h => absurd h List.not_mem_nil⟩

/-- The links in the head of a page: the canonical one, those to fonts, and those to the style sheet
and to the icon. -/
def headLinks (stylesheet : String) : List String :=
  (esc ctx.canonicalUrl).text :: ctx.fontTargets ++ [(esc stylesheet).text, "/favicon.svg"]

/-- Of the links in the head two stay within the site, if the style sheet does. -/
theorem eq_of_mem_headLinks {stylesheet link : String} (h : link ∈ ctx.headLinks stylesheet)
    (hown : Text.startsWith link "/" = true) :
    link = (esc stylesheet).text ∨ link = "/favicon.svg" := by
  unfold headLinks at h
  rw [List.mem_append, List.mem_cons, List.mem_cons, List.mem_singleton] at h
  rcases h with (rfl | h) | h
  · have hhead : ctx.canonicalUrl.toList.head? = some 'h' := by
      unfold canonicalUrl
      rw [String.toList_append, String.toList_append, List.append_assoc, List.head?_append]
      rfl
    rw [startsWith_slash_esc hhead] at hown
    cases hown
  · rw [ctx.startsWith_slash_of_mem_fontTargets link h] at hown
    cases hown
  · exact h

/-- The lines of the head before the fragment of a provider. -/
def headLines (stylesheet : String) : List Markup :=
  PageShell.headStart ctx.description ++
    [.indent 2 <| el "title" [] (esc ctx.fullTitle),
     .indent 2 <| leaf "link" [attr "rel" "canonical", attr "href" ctx.canonicalUrl],
     .indent 2 <| ctx.shareTags] ++
    ctx.fontLinks ++
    [.indent 2 <| PageShell.stylesheetLink stylesheet,
     .indent 2 <| PageShell.iconLink,
     .indent 2 <| ctx.pageData ++ html "\n  " ++ ctx.wayData]

theorem hasLinks_headLines (stylesheet : String) :
    (Markup.rows (ctx.headLines stylesheet)).HasLinks (ctx.headLinks stylesheet) := by
  have hcanonical : (leaf "link" [attr "rel" "canonical", attr "href" ctx.canonicalUrl]).HasLinks
      [(esc ctx.canonicalUrl).text] :=
    .startTag rfl [("rel", "canonical"), ("href", ctx.canonicalUrl)] (by simp [isMarkupName])
  have hicon : PageShell.iconLink.HasLinks ["/favicon.svg"] :=
    .startTag rfl [("rel", "icon"), ("href", "/favicon.svg"), ("type", "image/svg+xml")] rfl
  have hway : ctx.wayData.HasLinks [] := by
    unfold wayData
    split <;> exact hasLinks_linkedData _
  have hbreak : (html "\n  ").HasLinks [] := .of_notMem (by decide)
  have hpage : ctx.pageData.HasLinks [] := hasLinks_linkedData _
  have hdata : (ctx.pageData ++ html "\n  " ++ ctx.wayData).HasLinks [] :=
    (hpage.append hbreak).append hway
  -- The head has links in three places: the canonical address, the fonts, and the style sheet and
  -- icon.
  have hstart : (Markup.rows
      [.indent 2 <| el "title" [] (esc ctx.fullTitle),
       .indent 2 <| leaf "link" [attr "rel" "canonical", attr "href" ctx.canonicalUrl],
       .indent 2 <| ctx.shareTags]).HasLinks ([(esc ctx.canonicalUrl).text] ++ []) :=
    .rows_cons_none (.indent (.textEl rfl _) 2) <| .rows_cons (.indent hcanonical 2) <|
      .rows_singleton (.indent ctx.hasLinks_shareTags 2)
  have hend : (Markup.rows
      [.indent 2 <| PageShell.stylesheetLink stylesheet,
       .indent 2 <| PageShell.iconLink,
       .indent 2 <| ctx.pageData ++ html "\n  " ++ ctx.wayData]).HasLinks
        ([(esc stylesheet).text] ++ (["/favicon.svg"] ++ [])) :=
    .rows_cons (.indent (hasLinks_stylesheetLink stylesheet) 2) <|
      .rows_cons (.indent hicon 2) <| .rows_singleton (.indent hdata 2)
  exact (((PageShell.hasLinks_headStart ctx.description).rows_append hstart).rows_append
    ctx.hasLinks_fontLinks).rows_append hend

/-- The fragment of a provider of advertisements in the head of a page. -/
def headFragment : Markup := Markup.rows [.indent 2 <| ctx.headScripts]

/-- The fragment of a provider of advertisements at the end of a page. -/
def bodyFragment : Markup := Markup.rows [ctx.bodyScripts]

end BlockContext

/-! ### The whole page -/

/-- What stands in a page made of blocks between the two fragments. -/
def BlockPage.lines (p : BlockPage) (ctx : BlockContext) : List Markup :=
  [endTag "head",
   startTag "body" [attr "data-theme" ctx.theme, attr "data-skin" ctx.skin],
   p.header,
   startTag "div" [cls "site-container"],
   .indent 2 <| startTag "main" [],
   Markup.lines p.sections,
   .indent 2 <| endTag "main",
   endTag "div",
   p.footer,
   el "div" [cls "reading-progress", attr "aria-hidden" "true"] .empty,
   el "button" [cls "back-to-top", attr "aria-label" "Back to top"] (html "&uarr;"),
   el "script" [] (html ("\n" ++ pageScript ++ "\n"))]

/-- Lines put together have no other characters than each of them and line feeds. -/
theorem Text.notMem_toList_unlines {c : Char} (hc : c ≠ '\n') {ls : List String}
    (h : ∀ l ∈ ls, c ∉ l.toList) : c ∉ (unlines ls).toList :=
  forall_unlines (P := (c ∉ ·)) List.not_mem_nil (mt List.mem_singleton.mp hc)
    (fun _ _ hx hy => mt List.mem_append.mp (not_or.mpr ⟨hx, hy⟩)) h

/-- Whether a character stands in a text is read off the list of its characters. -/
theorem notMem_toList_ofList {c : Char} {cs : List Char} (h : c ∉ cs) :
    c ∉ (String.ofList cs).toList := by
  rwa [String.toList_ofList]

/-- The script of every page is written without double quotes. -/
theorem quote_notMem_pageScript : '"' ∉ pageScript.toList := by
  refine Text.notMem_toList_unlines (by decide) ?_
  simp only [List.forall_mem_cons, String.toList_append, List.mem_append, not_or]
  -- One line after the other; evaluating the text as a whole would take much longer.
  repeat' apply And.intro
  all_goals first
    | exact notMem_toList_ofList (by decide +kernel)
    | exact fun _ h => absurd h List.not_mem_nil

theorem hasLinks_pageScript :
    (el "script" [] (html ("\n" ++ pageScript ++ "\n"))).HasLinks [] := by
  have hnone : (html ("\n" ++ pageScript ++ "\n")).links = [] := by
    refine pageLinks_eq_nil ?_
    show '"' ∉ ("\n" ++ pageScript ++ "\n").toList
    rw [String.toList_append, String.toList_append, List.mem_append, List.mem_append, not_or,
      not_or]
    exact ⟨⟨by decide, quote_notMem_pageScript⟩, by decide⟩
  have hstart : (startTag "script" []).HasLinks [] := .startTag_nil rfl
  have hel := HasLinks.el rfl hstart (html ("\n" ++ pageScript ++ "\n"))
  rwa [hnone] at hel

theorem BlockPage.hasLinks_lines {p : BlockPage} (h : p.IsClosed) (ctx : BlockContext) :
    (Markup.rows (p.lines ctx)).HasLinks (p.parts.flatMap Markup.links) := by
  have hbody : (startTag "body" [attr "data-theme" ctx.theme, attr "data-skin" ctx.skin]).HasLinks
      [] :=
    .startTag rfl [("data-theme", ctx.theme), ("data-skin", ctx.skin)] (by simp [isMarkupName])
  have hsections : (Markup.lines p.sections).HasLinks (p.sections.flatMap Markup.links) :=
    .joinWith (by decide) h.sections
  have hbar : (el "div" [cls "reading-progress", attr "aria-hidden" "true"] .empty).HasLinks [] :=
    .elWith rfl (.startTag rfl [("class", "reading-progress"), ("aria-hidden", "true")] rfl)
      (.of_notMem List.not_mem_nil)
  have hbutton : (el "button" [cls "back-to-top", attr "aria-label" "Back to top"]
      (html "&uarr;")).HasLinks [] :=
    .elWith rfl (.startTag rfl [("class", "back-to-top"), ("aria-label", "Back to top")] rfl)
      (.of_notMem (by decide))
  -- Behind the sections only the footer has links.
  have hend : (Markup.rows
      [.indent 2 <| endTag "main", endTag "div", p.footer,
       el "div" [cls "reading-progress", attr "aria-hidden" "true"] .empty,
       el "button" [cls "back-to-top", attr "aria-label" "Back to top"] (html "&uarr;"),
       el "script" [] (html ("\n" ++ pageScript ++ "\n"))]).HasLinks (p.footer.links ++ []) :=
    .rows_cons_none (.indent (.endTag rfl) 2) <| .rows_cons_none (.endTag rfl) <|
      .rows_cons h.footer <| .rows_cons_none hbar <| .rows_cons_none hbutton <|
        .rows_singleton hasLinks_pageScript
  have hall : (Markup.rows (p.lines ctx)).HasLinks
      (p.header.links ++ (p.sections.flatMap Markup.links ++ (p.footer.links ++ []))) :=
    .rows_cons_none (.endTag rfl) <| .rows_cons_none hbody <| .rows_cons h.header <|
      .rows_cons_none (.startTag_cls rfl _) <| .rows_cons_none (.indent (.startTag_nil rfl) 2) <|
        .rows_cons hsections hend
  unfold parts
  simpa using hall

theorem blockPage_eq (blocks : List Block) (ctx : BlockContext) (stylesheet : String) :
    blockPage blocks ctx stylesheet =
      Markup.rows (ctx.headLines stylesheet) ++ ctx.headFragment ++
        Markup.rows ((BlockPage.ofBlocks ctx blocks).lines ctx) ++ ctx.bodyFragment ++
          Markup.rows [endTag "body", endTag "html"] := by
  unfold BlockContext.headFragment BlockContext.bodyFragment
  rw [← Markup.rows_append, ← Markup.rows_append, ← Markup.rows_append, ← Markup.rows_append]
  unfold BlockContext.headLines BlockPage.lines blockPage
  simp only [List.append_assoc, List.cons_append, List.nil_append]

/-- **The links of a page made of blocks** are those of its head, of its blocks, and of the
fragments that are put into it. -/
theorem links_blockPage (blocks : List Block) (ctx : BlockContext) (stylesheet : String) :
    (blockPage blocks ctx stylesheet).links.Perm (ctx.headLinks stylesheet ++
      (ctx.headFragment :: (BlockPage.ofBlocks ctx blocks).parts ++
        [ctx.bodyFragment]).flatMap Markup.links) := by
  have hlines := BlockPage.hasLinks_lines (BlockPage.isClosed_ofBlocks ctx blocks) ctx
  have hend : (Markup.rows [endTag "body", endTag "html"]).HasLinks [] :=
    .rows_cons_none (.endTag rfl) (.rows_singleton (.endTag rfl))
  have htag (name : String) (ms : List Markup) : (Markup.rows (endTag name :: ms)).BeginsWithTag :=
    (Markup.beginsWithTag_endTag name).rows_cons ms
  -- As in the frame, tags of the page follow the fragments.
  rw [blockPage_eq, (hend.behind (htag "body" _) _).links_eq,
    (hlines.behind (htag "head" _) _).links_append,
    (ctx.hasLinks_headLines stylesheet).links_append]
  simp

end StaticSite
