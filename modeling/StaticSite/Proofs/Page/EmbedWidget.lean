import StaticSite.Page.Blocks
import StaticSite.Proofs.Html.Links
import StaticSite.Proofs.Html.Tags
import StaticSite.Proofs.Site.Route

/-!
# The page that a block embeds

A block may show a page for embedding in a frame. `frameSources` reads the addresses of such pages
off a page, and `Block.frameSources_wrapper` says that a block with a safe slug has one, that of the
page for embedding with this slug. The slug is written as it is, since no character of it has a
meaning in markup.
-/

namespace StaticSite

/-- What the tag of a page that is embedded begins with. -/
def frameOpening : List Char := "iframe src=\"".toList

/-- The addresses of the pages that a page embeds, in order. -/
def frameSources (page : String) : List String := valuesAfter frameOpening '"' page

namespace Block

/-! ### The parts of a block that embeds a page -/

/-- What stands before the tag of the page. -/
def frameBefore (title width : String) : Markup :=
  Markup.rows
    [startTag "div" [cls "embed-widget"],
     .indent 2 <| el "h3" [cls "embed-title"] (esc title),
     .indent 2 <| startTag "div" [cls "embed-container", attr "style" ("max-width:" ++ width)]] ++
    html "    "

/-- What stands in the tag of the page behind its address. -/
def frameRest (title height : String) : Markup :=
  html "\"" ++ Markup.concat
    [attr "loading" "lazy", attr "title" title,
     attr "style" ("width:100%;height:" ++ height ++ ";border:none"), flag "allowfullscreen",
     attr "sandbox" "allow-scripts allow-same-origin allow-forms"] ++ html ">"

/-- What stands behind the tag of the page. -/
def frameAfter : Markup :=
  endTag "iframe" ++ html "\n" ++ Markup.lines [.indent 2 <| endTag "div", endTag "div"]

theorem bracket_notMem_frameRest (title height : String) :
    '<' ∉ (frameRest title height).text.toList := by
  intro hmem
  have hbrackets : (frameRest title height).brackets = ['>'] := by
    unfold frameRest
    simp only [Markup.brackets_append, Markup.brackets_concat, List.flatMap_cons, List.flatMap_nil,
      Markup.brackets_attr]
    decide
  have hin : '<' ∈ (frameRest title height).brackets := List.mem_filter.mpr ⟨hmem, rfl⟩
  rw [hbrackets] at hin
  exact absurd hin (by decide)

theorem hasOtherTags_frameBefore (title width : String) :
    (frameBefore title width).HasOtherTags frameOpening := by
  refine .append (.rows ?_) (by decide)
  simp only [List.forall_mem_cons]
  refine ⟨by decide, .indent (.append (.append (by decide) (.esc title)) (by decide)),
    .indent (.startTag (by decide) ?_), fun _ h => absurd h List.not_mem_nil⟩
  simp only [List.forall_mem_cons]
  exact ⟨by decide, .attr (by decide) _, fun _ h => absurd h List.not_mem_nil⟩

theorem embedWidget_eq {b : Block} {slug : String} (h : b.embeddedSlug? = some slug) :
    ∃ title width height, b.embedWidget = frameBefore title width ++ html "<iframe src=\"" ++
      esc ("/embed/" ++ slug ++ ".html") ++ frameRest title height ++ frameAfter := by
  refine ⟨(b.content.text? "title").getD "Widget", (b.config.text? "width").getD "100%",
    (b.config.text? "height").getD "600px", Markup.eq_of_toList_eq ?_⟩
  unfold embedWidget
  rw [h]
  dsimp only
  have hopen : html "<iframe src=\"" = html ("<" ++ "iframe") ++ html (" " ++ "src" ++ "=\"") := rfl
  have hsrc (value : String) : attr "src" value =
      html (" " ++ "src" ++ "=\"") ++ esc value ++ html "\"" := rfl
  have hframe (attrs : List Markup) : el "iframe" attrs .empty =
      html ("<" ++ "iframe") ++ Markup.concat attrs ++ html ">" ++ .empty ++ endTag "iframe" := rfl
  have hblank : (html "    ").text.toList = List.replicate 4 ' ' := rfl
  have hbreak : (html "\n").text.toList = ['\n'] := rfl
  have hrows : (Markup.rows []).text.toList = [] := rfl
  have hempty : Markup.empty.text.toList = [] := rfl
  unfold frameBefore frameRest frameAfter Markup.lines
  rw [Markup.joinWith_cons_cons, Markup.joinWith_cons_cons, Markup.joinWith_cons_cons,
    Markup.joinWith_cons_cons, hframe, Markup.concat_cons, hsrc, hopen]
  simp only [Markup.toList_append, Markup.toList_rows_cons, Markup.toList_indent, hblank, hbreak,
    hrows, hempty, List.append_assoc, List.nil_append, List.cons_append]

/-- The address of a page for embedding is written as it is. -/
theorem text_esc_embed {slug : String} (h : Route.isSafeSlug slug = true) :
    (esc ("/embed/" ++ slug ++ ".html")).text = "/embed/" ++ slug ++ ".html" := by
  have hopen : "/embed/".toList.all (fun c => Markup.escapeChar c == [c]) = true := by decide
  have hend : ".html".toList.all (fun c => Markup.escapeChar c == [c]) = true := by decide
  refine text_esc_eq_self ?_
  rw [String.toList_append, String.toList_append, List.forall_mem_append, List.forall_mem_append]
  exact ⟨⟨fun c hc => beq_iff_eq.mp (List.all_eq_true.mp hopen c hc), escapeChar_of_mem_slug h⟩,
    fun c hc => beq_iff_eq.mp (List.all_eq_true.mp hend c hc)⟩

/-- Markup with other tags before the block adds no address, and what follows adds its own. -/
theorem frameSources_embedWidget {b : Block} {slug : String} (h : b.embeddedSlug? = some slug)
    {before : Markup} (hbefore : before.HasOtherTags frameOpening) (after : Markup) :
    frameSources (before ++ b.embedWidget ++ after).text =
      ("/embed/" ++ slug ++ ".html") :: frameSources (frameAfter ++ after).text := by
  obtain ⟨title, width, height, hwidget⟩ := embedWidget_eq h
  have hsafe : Route.isSafeSlug slug = true := (Option.filter_eq_some_iff.mp h).2
  -- A safe slug has none of the characters that end the tag or the value.
  have hsource {c : Char} (hc : c ∈ ['<', '>', '"']) :
      c ∉ ("/embed/" ++ slug ++ ".html").toList := by
    rw [← text_esc_embed hsafe]
    exact Markup.notMem_toList_esc _ hc
  obtain ⟨last, hlast⟩ : ∃ last, (frameRest title height).text.toList = '"' :: last := by
    unfold frameRest
    rw [Markup.toList_append, Markup.toList_append, List.append_assoc]
    exact ⟨_, rfl⟩
  have hopen : (html "<iframe src=\"").text.toList = '<' :: frameOpening := rfl
  have hbracket : '<' ∉ frameOpening ++
      (("/embed/" ++ slug ++ ".html").toList ++ '"' :: last) := by
    rw [← hlast, List.mem_append, List.mem_append, not_or, not_or]
    exact ⟨by decide, hsource (by decide), bracket_notMem_frameRest title height⟩
  have hread := @filterMap_valueAfter?_tag frameOpening '"' _ last
    (frameAfter ++ after).text.toList _ (hbefore.append (hasOtherTags_frameBefore title width))
    (hsource (by decide)) hbracket
  rw [frameSources, frameSources, valuesAfter, valuesAfter, ← hread, hwidget]
  simp only [Markup.toList_append, hlast, hopen, text_esc_embed hsafe, List.append_assoc,
    List.cons_append]

/-- A block that embeds a page is neither a header nor a footer. -/
theorem place_of_embedWidget {b : Block} (hkind : BlockKind.named? b.type = some .embedWidget) :
    (b.type == "Header" || b.type == "Footer") = false := by
  rw [Bool.or_eq_false_iff, beq_eq_false_iff_ne, beq_eq_false_iff_ne]
  constructor <;> intro heq <;> rw [heq] at hkind <;> cases hkind

/-- **A block that embeds a page has its address once** where it stands on a page, and no other
address. -/
theorem frameSources_wrapper {b : Block} {slug : String}
    (hkind : BlockKind.named? b.type = some .embedWidget) (h : b.embeddedSlug? = some slug)
    (ctx : BlockContext) :
    frameSources (b.wrapper ctx).text = ["/embed/" ++ slug ++ ".html"] := by
  have hmarkup : b.markup ctx = b.embedWidget := by
    rw [markup, hkind]
    rfl
  -- No attribute of the section reads as a frame.
  have hvariant (variant : Option String) :
      (attr? "data-block-variant" variant).HasOtherTags frameOpening := by
    cases variant with
    | none => decide
    | some variant => exact .attr (by decide) variant
  have hattrs : ∀ m ∈ [attr "data-block-id" b.id, attr "data-block-type" b.type] ++
      [attr? "data-block-variant" (b.variant.filter fun v => !v.isEmpty), flag "data-animate"],
      m.HasOtherTags frameOpening := by
    simp only [List.forall_mem_append, List.forall_mem_cons]
    exact ⟨⟨.attr (by decide) _, .attr (by decide) _, fun _ h => absurd h List.not_mem_nil⟩,
      hvariant _, by decide, fun _ h => absurd h List.not_mem_nil⟩
  have hend : frameSources (frameAfter ++ endTag "section").text = [] := by decide
  unfold wrapper
  dsimp only
  rw [place_of_embedWidget hkind, if_neg Bool.false_ne_true, hmarkup, el,
    frameSources_embedWidget h (.startTag (by decide) hattrs), hend]

end Block

end StaticSite
