import StaticSite.Proofs.Link.Leading
import StaticSite.Proofs.Page.BlockLinks
import StaticSite.Proofs.Page.Canonical

/-!
# The fragments of a provider of advertisements

A page takes two fragments from a provider of advertisements as they are, one in its head and one at
its end. The pages of articles and those made of blocks are linked afterwards, and so it matters
what stands around the fragments: they stand apart in these pages (`StandsApart`).

* The lines of the head open no item (`opensNoItem_headLines`), and a tag of the head or its end
  follows the fragment.
* The page before the other fragment ends outside of all items (`Markup.EndsOutside`) with the
  footer or with a script, and the end of the page follows.
-/

namespace StaticSite

open Link (StandsApart LeavesNoItem isClosedNext)
open Markup (OpensNoItem)

namespace Markup

/-! ### Where markup ends -/

/-- **Markup ends outside of all items**, whatever stands before it: it ends with a tag that opens
none, and the tag before that one is complete. -/
def EndsOutside (m : Markup) : Prop :=
  ∃ before after, m.text.toList = before ++ '>' :: after ∧ '<' ∈ after ∧ Link.OpensNoItem after

namespace EndsOutside

theorem behind {m : Markup} (h : m.EndsOutside) (before : Markup) : (before ++ m).EndsOutside := by
  obtain ⟨start, after, htext, hmem, hopens⟩ := h
  refine ⟨before.text.toList ++ start, after, ?_, hmem, hopens⟩
  rw [toList_append, htext, List.append_assoc]

theorem leavesNoItem_behind {m : Markup} (h : m.EndsOutside) (lead : Markup) :
    LeavesNoItem (lead ++ m).text.toList := by
  obtain ⟨before, after, htext, hmem, hopens⟩ := h.behind lead
  rw [htext]
  exact hopens.leavesNoItem.behind hmem

theorem append {m after : Markup} (h : m.EndsOutside) (hafter : after.OpensNoItem) :
    (m ++ after).EndsOutside := by
  obtain ⟨before, rest, htext, hmem, hopens⟩ := h
  refine ⟨before, rest ++ after.text.toList, ?_, List.mem_append_left _ hmem, hopens.append hafter⟩
  rw [toList_append, htext, List.append_assoc, List.cons_append]

/-- A line at the end of other lines. -/
theorem rows {m : Markup} (h : m.EndsOutside) (before : List Markup) :
    (rows (before ++ [m])).EndsOutside := by
  have hline : Markup.rows [m] = m ++ html "\n" := by
    refine eq_of_toList_eq ?_
    rw [toList_rows_cons, toList_append]
    rfl
  rw [rows_append, hline]
  exact (h.append (.of_notMem (by decide))).behind _

/-- An element ends outside of all items if its contents and its end open none. -/
theorem el {name : String} (hname : isOtherName name = true) (attrs : List Markup)
    {contents : Markup} (h : contents.OpensNoItem) : (el name attrs contents).EndsOutside := by
  refine ⟨(html ("<" ++ name) ++ concat attrs).text.toList,
    (contents ++ endTag name).text.toList, ?_, ?_,
    h.append (.endTag hname)⟩
  · unfold StaticSite.el startTag
    rw [toList_append, toList_append, toList_append _ (html ">"), toList_append contents]
    simp only [List.append_assoc]
    rfl
  · rw [toList_append, toList_endTag]
    simp

end EndsOutside

end Markup

/-! ### A line of a page -/

/-- **A line of a page stands apart** if what comes before it leaves no item open, and the first tag
behind it closes none. -/
theorem standsApart_rows {before : Markup} (m : Markup) {after : List Markup}
    (hbefore : LeavesNoItem before.text.toList)
    (hafter : isClosedNext (Markup.rows after).text.toList = false) :
    StandsApart m.text.toList (before ++ Markup.rows [m] ++ Markup.rows after).text.toList := by
  have hbreak : '<' ∉ ['\n'] := by decide
  refine ⟨before.text.toList, '\n' :: (Markup.rows after).text.toList, hbefore,
    Link.closesNoItem_of_isForeign (by decide) ?_, ?_⟩
  · exact (Link.isClosedNext_text_append hbreak _).trans hafter
  · rw [Markup.toList_append, Markup.toList_append, Markup.toList_rows_cons, List.append_assoc,
      List.append_assoc]
    rfl

/-- A line that is set in, behind lines that open no item. -/
theorem standsApart_rows_indent {before : List Markup} (n : Nat) (m : Markup) {after : List Markup}
    (hbefore : ∀ m ∈ before, m.OpensNoItem)
    (hafter : isClosedNext (Markup.rows after).text.toList = false) :
    StandsApart m.text.toList (Markup.rows (before ++ .indent n m :: after)).text.toList := by
  have hblank : (Markup.indent n .empty).OpensNoItem :=
    .indent (.of_notMem List.not_mem_nil) n
  have hlines : Markup.rows (before ++ .indent n m :: after) =
      Markup.rows before ++ .indent n .empty ++ Markup.rows [m] ++ Markup.rows after := by
    refine Markup.eq_of_toList_eq ?_
    simp only [Markup.toList_rows_append, Markup.toList_rows_cons, Markup.toList_append,
      Markup.toList_indent, List.append_assoc]
    rfl
  rw [hlines]
  exact standsApart_rows m
    ((OpensNoItem.rows hbefore).append hblank).leavesNoItem hafter

theorem isClosedNext_endTag_head (ms : List Markup) :
    isClosedNext (Markup.rows (endTag "head" :: ms)).text.toList = false := by
  rw [Markup.toList_rows_cons, Markup.toList_endTag]
  rfl

theorem isClosedNext_pageEnd :
    isClosedNext (Markup.rows [endTag "body", endTag "html"]).text.toList = false := by
  decide

/-! ### The frame of a site -/

theorem opensNoItem_headStart (description : String) :
    ∀ m ∈ PageShell.headStart description, m.OpensNoItem := by
  have hmeta {attrs : List Markup} (hattrs : ∀ a ∈ attrs, a.IsAttribute) :
      (Markup.indent 2 (leaf "meta" attrs)).OpensNoItem :=
    .indent (.startTag rfl hattrs) 2
  unfold PageShell.headStart
  simp only [List.forall_mem_cons]
  exact ⟨(by decide), .startTag rfl (by simp),
    .startTag rfl (by simp), hmeta (by simp), hmeta (by simp), hmeta (by simp),
    hmeta (by simp), fun _ h => absurd h List.not_mem_nil⟩

theorem opensNoItem_title (title : String) :
    (Markup.indent 2 (el "title" [] (esc title))).OpensNoItem :=
  .indent
    (.el rfl (by simp) (.esc title)) 2

/-- A link in the head of a page. -/
theorem opensNoItem_headLink {attrs : List Markup} (hattrs : ∀ a ∈ attrs, a.IsAttribute) :
    (Markup.indent 2 (leaf "link" attrs)).OpensNoItem :=
  .indent (.startTag rfl hattrs) 2

/-- Every footer ends with the end of an element that is no item. -/
theorem Frame.exists_footerParts (f : Frame) :
    ∃ parts, f.footerParts = parts ++ [.indent 2 (endTag "div")] := by
  have hend (parts : List Markup) (className more : String) :
      ∃ all, parts ++ f.footerEnd className more = all ++ [.indent 2 (endTag "div")] := by
    refine ⟨parts ++ [.indent 2 (startTag "div" [cls className]), f.linkColumns, f.disclaimerLine,
      f.copyrightLine more], ?_⟩
    rw [List.append_assoc]
    rfl
  unfold footerParts
  cases f.layout.footer with
  | multiColumn => exact hend [] _ _
  | ctaBar => exact hend f.invitation _ _
  | newsletter => exact hend f.subscription _ _
  | minimal => exact hend [] _ _

/-- Every line is a part of the lines that it is one of. -/
theorem Markup.isInfix_rows {m : Markup} {ms : List Markup} (h : m ∈ ms) :
    m.text.toList <:+: (Markup.rows ms).text.toList := by
  obtain ⟨before, after, rfl⟩ := List.append_of_mem h
  rw [toList_rows_append, toList_rows_cons]
  exact ⟨_, _, List.append_assoc ..⟩

theorem Markup.isInfix_joinWith {m : Markup} {ms : List Markup} (h : m ∈ ms) (sep : String) :
    m.text.toList <:+: (joinWith sep ms).text.toList := by
  induction ms with
  | nil => exact absurd h List.not_mem_nil
  | cons first ms ih =>
    cases ms with
    | nil => rw [joinWith_singleton, List.mem_singleton.mp h]
    | cons next ms =>
      rw [toList_joinWith_cons_cons]
      rcases List.mem_cons.mp h with rfl | h
      · rw [List.append_assoc]
        exact (List.prefix_append _ _).isInfix
      · exact (ih h).trans (List.suffix_append _ _).isInfix

/-- A piece without text, which a stack leaves out, is a part as well. -/
theorem Markup.isInfix_stack {m : Markup} {ms : List Markup} (h : m ∈ ms) :
    m.text.toList <:+: (stack ms).text.toList := by
  by_cases hempty : m.isEmpty
  · rw [show m.text = "" from String.isEmpty_iff.mp hempty]
    exact List.nil_infix
  · exact isInfix_joinWith (List.mem_filter.mpr ⟨h, by simpa using hempty⟩) "\n"

theorem Markup.isInfix_indent (n : Nat) (m : Markup) :
    m.text.toList <:+: (indent n m).text.toList := by
  rw [toList_indent]
  exact (List.suffix_append _ _).isInfix

theorem Markup.isInfix_el (name : String) (attrs : List Markup) (contents : Markup) :
    contents.text.toList <:+: (el name attrs contents).text.toList := by
  rw [el, toList_append, toList_append]
  exact ⟨_, _, rfl⟩

namespace PageShell

/-- What a page adds to the head is a part of it, and so is what it holds. -/
theorem isInfix_extra (s : PageShell) (head : PageHead) (contents : Markup) :
    head.extra.text.toList <:+: (s.wrap head contents).text.toList :=
  (Markup.isInfix_indent 2 head.extra).trans (Markup.isInfix_rows (by simp))

theorem isInfix_contents (s : PageShell) (head : PageHead) (contents : Markup) :
    contents.text.toList <:+: (s.wrap head contents).text.toList := by
  have hmain := Markup.isInfix_el "main" [] contents
  have hcolumns : contents.text.toList <:+: (s.columns contents).text.toList := by
    unfold columns
    refine List.IsInfix.trans ?_ (Markup.isInfix_el _ _ _)
    split
    · refine (hmain.trans ?_).trans (Markup.isInfix_el _ _ _)
      rw [Markup.toList_append]
      exact (List.prefix_append _ _).isInfix
    · exact hmain
  exact hcolumns.trans (Markup.isInfix_rows (by simp))

/-- **Every page in the frame has both fragments** as they were supplied. -/
theorem isInfix_wrap (s : PageShell) (head : PageHead) (contents : Markup) :
    ∀ m ∈ [s.headScripts, s.bodyScripts],
      m.text.toList <:+: (s.wrap head contents).text.toList := by
  rw [List.forall_mem_cons, List.forall_mem_singleton]
  exact ⟨(Markup.isInfix_indent 2 s.headScripts).trans (Markup.isInfix_rows (by simp)),
    Markup.isInfix_rows (by simp)⟩

/-- **The fragment in the head of a page stands apart** if what the page adds to the head begins
with no closing tag. -/
theorem standsApart_headScripts (s : PageShell) {head : PageHead} (contents : Markup)
    (hextra : ∀ more, isClosedNext (head.extra.text.toList ++ more) = false) :
    StandsApart s.headScripts.text.toList (s.wrap head contents).text.toList := by
  have hlines : ∀ m ∈ headStart head.description ++
      [.indent 2 (el "title" [] (esc (head.title ++ " | " ++ s.siteTitle))),
       .indent 2 (stylesheetLink "/styles.css"), .indent 2 iconLink], m.OpensNoItem := by
    rw [List.forall_mem_append, List.forall_mem_cons, List.forall_mem_cons,
      List.forall_mem_singleton]
    exact ⟨opensNoItem_headStart _, opensNoItem_title _, opensNoItem_headLink (by simp),
      opensNoItem_headLink (by simp)⟩
  have hafter (ms : List Markup) :
      isClosedNext (Markup.rows (.indent 2 head.extra :: ms)).text.toList = false := by
    rw [Markup.toList_rows_cons, Markup.toList_indent, List.append_assoc,
      Link.isClosedNext_text_append (by decide), hextra]
  have hpage (ms : List Markup) := standsApart_rows_indent 2 s.headScripts hlines (hafter ms)
  simp only [List.append_assoc, List.cons_append, List.nil_append] at hpage
  exact hpage _

/-- **The fragment at the end of a page stands apart**, since the footer before it is complete. -/
theorem standsApart_bodyScripts (f : Frame) (head : PageHead) (contents : Markup) :
    StandsApart (build f).bodyScripts.text.toList ((build f).wrap head contents).text.toList := by
  have hfooter : f.footer.EndsOutside := by
    have hend : (Markup.rows [.indent 2 (endTag "div"), endTag "footer"]).EndsOutside :=
      ⟨"  </div".toList, "\n</footer>\n".toList, by decide, by decide, by decide⟩
    obtain ⟨parts, hparts⟩ := f.exists_footerParts
    unfold Frame.footer
    rw [hparts, List.append_assoc, List.append_assoc, ← List.append_assoc, Markup.rows_append]
    exact hend.behind _
  have hbefore := (hfooter.rows [endTag "head", startTag "body" [], (build f).header,
    (build f).columns contents]).leavesNoItem_behind
  rw [wrap_eq]
  exact standsApart_rows (build f).bodyScripts (hbefore _) isClosedNext_pageEnd

end PageShell

/-- **Both fragments stand apart on the page of an article.** -/
theorem standsApart_articlePage {a : Article} {ctx : ArticleContext} {f : Frame} {page : Markup}
    (hshell : ctx.shell = some (.build f)) (h : articlePage a ctx = .ok page) :
    ∀ m ∈ [(PageShell.build f).headScripts, (PageShell.build f).bodyScripts],
      StandsApart m.text.toList page.text.toList := by
  obtain ⟨p, -, h⟩ := exists_of_bind_eq_ok h
  rw [ArticleParts.page, hshell] at h
  cases h
  obtain ⟨rest, hshare⟩ := exists_toList_shareTags a ctx.domain
  -- The tags by which an article is shared begin with its canonical link.
  have hextra (more : List Char) :
      isClosedNext ((shareTags a ctx.domain).text.toList ++ more) = false := by
    rw [hshare]
    rfl
  rw [List.forall_mem_cons, List.forall_mem_singleton]
  exact ⟨PageShell.standsApart_headScripts _ _ hextra, PageShell.standsApart_bodyScripts f _ _⟩

/-! ### Pages made of blocks -/

theorem opensNoItem_linkedData (members : List (String × Json)) :
    (linkedData members).OpensNoItem :=
  .el rfl (by simp) (.inScript _)

namespace BlockContext

variable (ctx : BlockContext)

theorem opensNoItem_of_mem_timeTags {property : String} {t : Option Timestamp} {m : Markup}
    (hm : m ∈ timeTags property t) : m.OpensNoItem := by
  obtain ⟨time, -, rfl⟩ := Option.map_eq_some_iff.mp (Option.mem_toList.mp hm)
  exact .startTag rfl (by simp)

theorem opensNoItem_shareTags : ctx.shareTags.OpensNoItem := by
  refine .joinWith (by decide) ?_
  simp only [List.forall_mem_append, List.forall_mem_cons]
  refine ⟨⟨⟨?_, ?_, ?_, ?_, ?_, ?_, ?_, ?_, ?_, fun _ h => absurd h List.not_mem_nil⟩,
    fun _ => opensNoItem_of_mem_timeTags⟩, fun _ => opensNoItem_of_mem_timeTags⟩
  all_goals exact .startTag rfl (by simp)

theorem opensNoItem_of_mem_fontLinks : ∀ m ∈ ctx.fontLinks, m.OpensNoItem := by
  unfold fontLinks
  cases ctx.fontUrl? with
  | none => exact fun _ h => absurd h List.not_mem_nil
  | some url =>
    simp only [List.forall_mem_cons]
    exact ⟨opensNoItem_headLink (by simp), opensNoItem_headLink (by simp),
      opensNoItem_headLink (by simp), fun _ h => absurd h List.not_mem_nil⟩

/-- **The lines of the head open no item.** -/
theorem opensNoItem_headLines (stylesheet : String) :
    ∀ m ∈ ctx.headLines stylesheet, m.OpensNoItem := by
  have hway : ctx.wayData.OpensNoItem := by
    unfold wayData
    split <;> exact opensNoItem_linkedData _
  have hbreak : (html "\n  ").OpensNoItem := .of_notMem (by decide)
  have hdata : (ctx.pageData ++ html "\n  " ++ ctx.wayData).OpensNoItem :=
    ((opensNoItem_linkedData _).append hbreak).append hway
  unfold headLines
  simp only [List.forall_mem_append, List.forall_mem_cons]
  exact ⟨⟨⟨opensNoItem_headStart _, opensNoItem_title _, opensNoItem_headLink (by simp),
    .indent ctx.opensNoItem_shareTags 2, fun _ h => absurd h List.not_mem_nil⟩,
    ctx.opensNoItem_of_mem_fontLinks⟩, opensNoItem_headLink (by simp),
    opensNoItem_headLink (by simp), .indent hdata 2,
    fun _ h => absurd h List.not_mem_nil⟩

end BlockContext

/-- Whether the tags of a text open items is read off the list of its characters. -/
theorem opensNoItem_toList_ofList {cs : List Char} (h : Link.OpensNoItem cs) :
    Link.OpensNoItem (String.ofList cs).toList := by
  rwa [String.toList_ofList]

/-- The script of every page opens no item. -/
theorem opensNoItem_pageScript : Link.OpensNoItem pageScript.toList := by
  refine Link.OpensNoItem.unlines ?_
  simp only [List.forall_mem_cons, List.not_mem_nil, false_imp_iff, implies_true, and_true,
    String.toList_append]
  repeat' with_reducible apply And.intro
  all_goals try with_reducible apply Link.OpensNoItem.append
  -- All lines but one have no `<` at all.
  all_goals first
    | exact .of_notMem (notMem_toList_ofList (by decide +kernel))
    | exact opensNoItem_toList_ofList (by decide +kernel)

theorem opensNoItem_pageCode : (html ("\n" ++ pageScript ++ "\n")).OpensNoItem := by
  have hbreak : (html "\n").OpensNoItem := .of_notMem (by decide)
  have hcode : (html pageScript).OpensNoItem := opensNoItem_pageScript
  rw [Markup.html_append, Markup.html_append]
  exact (hbreak.append hcode).append hbreak

/-- **Both fragments stand apart on a page made of blocks**: the end of the head follows the one,
and the script before the other is complete. -/
theorem standsApart_blockPage (blocks : List Block) (ctx : BlockContext) (stylesheet : String) :
    ∀ m ∈ [ctx.headScripts, ctx.bodyScripts],
      StandsApart m.text.toList (blockPage blocks ctx stylesheet).text.toList := by
  rw [List.forall_mem_cons, List.forall_mem_singleton]
  constructor
  · have hpage (ms : List Markup) := standsApart_rows_indent 2 ctx.headScripts
      (ctx.opensNoItem_headLines stylesheet) (isClosedNext_endTag_head ms)
    unfold BlockContext.headLines at hpage
    unfold blockPage
    simp only [List.append_assoc, List.cons_append, List.nil_append] at hpage ⊢
    exact hpage _
  -- The body ends with the script of the page, which leaves no item open.
  · have hscript : (el "script" [] (html ("\n" ++ pageScript ++ "\n"))).EndsOutside :=
      .el rfl [] opensNoItem_pageCode
    obtain ⟨lines, hlines⟩ : ∃ lines, (BlockPage.ofBlocks ctx blocks).lines ctx =
        lines ++ [el "script" [] (html ("\n" ++ pageScript ++ "\n"))] := by
      unfold BlockPage.lines
      exact ⟨[_, _, _, _, _, _, _, _, _, _, _], rfl⟩
    rw [blockPage_eq, hlines]
    exact standsApart_rows ctx.bodyScripts ((hscript.rows lines).leavesNoItem_behind _)
      isClosedNext_pageEnd

/-- The lines between the two fragments open no item, if the parts that come from blocks open
none. -/
theorem BlockPage.opensNoItem_lines {p : BlockPage} (h : ∀ m ∈ p.parts, m.OpensNoItem)
    (ctx : BlockContext) : ∀ m ∈ p.lines ctx, m.OpensNoItem := by
  unfold parts at h
  rw [List.forall_mem_append, List.forall_mem_cons, List.forall_mem_singleton] at h
  obtain ⟨⟨hheader, hsections⟩, hfooter⟩ := h
  have hempty : Markup.empty.OpensNoItem := .of_notMem List.not_mem_nil
  have hend {name : String} (hname : Markup.isOtherName name = true) :
      (Markup.indent 2 (endTag name)).OpensNoItem :=
    .indent (.endTag hname) 2
  have hmain : (Markup.indent 2 (startTag "main" [])).OpensNoItem :=
    .indent (.startTag rfl (by simp)) 2
  have hbutton : (html "&uarr;").OpensNoItem := .of_notMem (by decide)
  unfold lines
  simp only [List.forall_mem_cons]
  exact ⟨.endTag rfl, .startTag rfl (by simp), hheader,
    .startTag rfl (by simp), hmain,
    .joinWith (by decide) hsections, hend rfl, .endTag rfl,
    hfooter, .el rfl (by simp) hempty,
    .el rfl (by simp) hbutton,
    .el rfl (by simp) opensNoItem_pageCode, fun _ h => absurd h List.not_mem_nil⟩

/-- Before the fragment at its end, a page opens no item if neither its blocks nor the other
fragment do. -/
theorem exists_toList_blockPage (blocks : List Block) (ctx : BlockContext) (stylesheet : String)
    (hhead : ctx.headScripts.OpensNoItem)
    (hparts : ∀ m ∈ (BlockPage.ofBlocks ctx blocks).parts, m.OpensNoItem) :
    ∃ lead, Link.OpensNoItem lead ∧ (blockPage blocks ctx stylesheet).text.toList =
      lead ++ (Markup.rows [ctx.bodyScripts, endTag "body", endTag "html"]).text.toList := by
  have hfragment : ctx.headFragment.OpensNoItem :=
    .rows (List.forall_mem_singleton.mpr (.indent hhead 2))
  refine ⟨_, ((OpensNoItem.rows (ctx.opensNoItem_headLines stylesheet)).append hfragment).append
    (.rows (BlockPage.opensNoItem_lines hparts ctx)), ?_⟩
  rw [blockPage_eq, Markup.toList_append, Markup.toList_append, List.append_assoc]
  unfold BlockContext.bodyFragment
  rw [← Markup.toList_rows_append, List.singleton_append]

end StaticSite
