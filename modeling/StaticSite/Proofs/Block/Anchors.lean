import StaticSite.Page.Blocks
import StaticSite.Proofs.Widget.Anchors

/-!
# The anchors of blocks

`BlockKind.anchors` lists the identifiers and the links of a block of a type, in the order of the
page, and `Block.hasAnchors_markup` says that its markup has just these. Some types form their
identifiers from that of the block; those that show a widget have the identifiers of the widget,
which does not know the block it stands in.

A block that cannot be rendered leaves a comment, which has no anchors.
-/

namespace StaticSite

open Markup

namespace Block

variable (b : Block) (ctx : BlockContext)

/-! ### Pieces of blocks -/

@[simp]
theorem hasAnchors_sectionHeading (title : Option String) :
    (sectionHeading title).HasAnchors [] := by
  unfold sectionHeading
  simp (disch := simp (disch := simp))

@[simp]
theorem hasAnchors_textIn {element : String} (h : isTagName element.toList = true)
    (className : String) (text : Option String) :
    (textIn element className text).HasAnchors [] := by
  cases text with
  | none => simp [textIn]
  | some t => exact ⟨isWhole_el h (by simp) _, by simp [textIn, whenSome, read_el h]⟩

@[simp]
theorem hasAnchors_actionLink (href className label : String) :
    (actionLink href className label).HasAnchors [.link href] := by
  unfold actionLink
  simp (disch := simp (disch := simp))

/-- The link of a record with an address. -/
def recordAnchor (r : Fields) : Anchor := .link ((r.text? "href").getD "#")

@[simp]
theorem hasAnchors_recordLink (r : Fields) : (recordLink r).HasAnchors [recordAnchor r] := by
  unfold recordLink recordAnchor
  simp (disch := simp (disch := simp))

/-- The link that is there if both its address and its label are given. -/
def givenAnchors (content : Fields) : List Anchor :=
  match content.text? "ctaUrl", content.text? "ctaText" with
  | some url, some _ => [.link url]
  | _, _ => []

@[simp]
theorem hasAnchors_givenLink (content : Fields) (className : String) :
    (givenLink content className).HasAnchors (givenAnchors content) := by
  unfold givenLink givenAnchors
  cases content.text? "ctaUrl" <;> cases content.text? "ctaText" <;> simp

/-- The link to a product, if it has one. -/
def productAnchors (product : Fields) : List Anchor := (product.text? "url").toList.map .link

@[simp]
theorem hasAnchors_productLink (className label : String) (product : Fields) :
    (productLink className label product).HasAnchors (productAnchors product) := by
  unfold productLink productAnchors visitLink
  simp (disch := simp (disch := simp)) [← List.map_eq_flatMap]

/-! ### Calls to action -/

/-- The anchors of a call to action that appears as the reader scrolls. -/
def scrollCtaAnchors : List Anchor :=
  (Call.ofBlock? b).toList.flatMap fun c => [.name ("scroll-cta-" ++ b.id), .link c.url]

@[simp]
theorem hasAnchors_scrollCta : (scrollCta b).HasAnchors (scrollCtaAnchors b) := by
  unfold scrollCta scrollCtaAnchors Call.onScroll
  simp (disch := simp (disch := simp))

/-- The anchors of a call to action. -/
def ctaBannerAnchors : List Anchor :=
  if b.config.text "trigger" == "scroll" then scrollCtaAnchors b
  else (Call.ofBlock? b).toList.map fun c => .link c.url

@[simp]
theorem hasAnchors_ctaBanner : (ctaBanner b).HasAnchors (ctaBannerAnchors b) := by
  unfold ctaBanner ctaBannerAnchors
  split
  · simp
  · unfold Call.inPage
    simp (disch := simp (disch := simp)) [← List.map_eq_flatMap]

/-! ### Steps -/

/-- The anchors of a step, which is named if it can be ticked off. -/
def stepAnchors (interactive : Bool) (listId : String) (index : Nat) (s : Fields) : List Anchor :=
  (if interactive then [.name (listId ++ "-" ++ toString index)] else []) ++
    (Html.sanitize (s.text "body")).anchors

@[simp]
theorem hasAnchors_step (interactive : Bool) (listId : String) (index : Nat) (s : Fields) :
    (step interactive listId index s).HasAnchors (stepAnchors interactive listId index s) := by
  unfold step stepAnchors
  cases interactive <;> simp (disch := simp (disch := simp))

/-- The anchors of a list of steps. -/
def checklistAnchors : List Anchor :=
  let steps := b.content.recordsWith "steps" "heading"
  let interactive := b.config.flag "interactive" true
  let id := "checklist-" ++ b.id
  if steps.isEmpty then []
  else .name id :: (steps.mapIdx (stepAnchors interactive id)).flatten

@[simp]
theorem hasAnchors_checklist : (checklist b).HasAnchors (checklistAnchors b) := by
  unfold checklist checklistAnchors
  dsimp only
  generalize b.config.flag "interactive" true = interactive
  obtain ⟨hwhole, hread⟩ := hasAnchors_mapIdx _
    (hasAnchors_step interactive ("checklist-" ++ b.id))
    (b.content.recordsWith "steps" "heading")
  rw [← hread]
  generalize (b.content.recordsWith "steps" "heading").mapIdx _ = steps at hwhole
  simp (disch := simp (disch := simp [eq_true hwhole]) [eq_true hwhole])

/-! ### Texts -/

@[simp]
theorem hasAnchors_linkedData (members : List (String × Json)) :
    (linkedData members).HasAnchors [] := by
  unfold linkedData
  simp (disch := simp (disch := simp))

/-- The anchors of an article: those of its text. -/
def articleAnchors : List Anchor := anchorsOf (ctx.prose (b.content.text "markdown")) Markup.anchors

theorem hasAnchors_of_articleBody_eq_ok {m : Markup} (h : b.articleBody ctx = .ok m) :
    m.HasAnchors (articleAnchors b ctx) := by
  obtain ⟨text, htext, h⟩ := exists_of_bind_eq_ok h
  cases Except.ok.inj h
  -- The text need not be whole, but the tag that ends the article stands behind it.
  have hbefore : ∀ m ∈ [startTag "article" [cls "article-body"],
      .indent 2 <| Markup.whenSome (b.content.text? "title") fun t => el "h1" [] (esc t),
      .indent 2 <| Markup.when (!isHome ctx.route)
        (el "button" [attr "type" "button", cls "print-btn", attr "onclick" "window.print()"]
          (esc "Print"))], m.HasAnchors [] := by
    simp (disch := simp (disch := simp))
  have hnone := List.flatMap_eq_nil_iff.mpr fun m hm => (hbefore m hm).2
  have hwhole m hm := (hbefore m hm).1
  refine ⟨(lines_endTag_spec hwhole (.indent 2 text) rfl).1,
    (read_lines_endTag hwhole (.indent 2 text) rfl).trans ?_⟩
  rw [hnone, read_indent, articleAnchors, htext]
  rfl

/-- The anchors of questions: those of their answers. -/
def faqAnchors : List Anchor :=
  (b.content.recordsWith "items" "question").flatMap fun e =>
    (Html.sanitize (e.text "answer")).anchors

@[simp]
theorem hasAnchors_faqData (entries : List Fields) : (faqData entries).HasAnchors [] :=
  hasAnchors_linkedData _

@[simp]
theorem hasAnchors_faq : (faq b).HasAnchors (faqAnchors b) := by
  unfold faq faqAnchors
  dsimp only
  generalize b.content.recordsWith "items" "question" = entries
  obtain ⟨hwhole, hread⟩ := hasAnchors_mapIdx
    (f := fun i (e : Fields) => question (if i = 0 && b.config.flag "openFirst" false then
      [StaticSite.flag "open"] else []) (e.text "question") (Html.sanitize (e.text "answer")))
    (fun _ e => (Html.sanitize (e.text "answer")).anchors)
    (fun i e => by split <;> simp (disch := simp (disch := simp)))
    entries
  rw [flatten_mapIdx_const] at hread
  rw [← hread]
  cases entries with
  | nil => simp
  | cons e es =>
    generalize (e :: es).mapIdx _ = items at hwhole
    simp (disch := simp (disch := simp [eq_true hwhole]) [eq_true hwhole])

/-- The anchors of the column beside the contents. -/
def sidebarAnchors : List Anchor :=
  (b.content.records "sections").flatMap fun s => (Html.sanitize (s.text "html")).anchors

@[simp]
theorem hasAnchors_sidebarPart (s : Fields) :
    (sidebarPart s).HasAnchors (Html.sanitize (s.text "html")).anchors := by
  unfold sidebarPart
  simp (disch := simp (disch := simp)) [read_append]

@[simp]
theorem hasAnchors_sidebar : (sidebar b).HasAnchors (sidebarAnchors b) := by
  unfold sidebar sidebarAnchors
  generalize b.content.records "sections" = parts
  cases parts <;> simp (disch := simp (disch := simp)) [List.flatMap_map]

@[simp]
theorem hasAnchors_authorBio : (authorBio b).HasAnchors [] := by
  unfold authorBio
  simp (disch := simp (disch := simp))

/-! ### Widgets -/

/-- The anchors of a comparison. -/
def comparisonTableAnchors : List Anchor :=
  anchorsOf (payload b Comparison.read) fun c =>
    if c.options.isEmpty || c.columns.isEmpty then [] else c.tableAnchors

theorem hasAnchors_of_comparisonTable_eq_ok {m : Markup} (h : comparisonTable b = .ok m) :
    m.HasAnchors (comparisonTableAnchors b) := by
  obtain ⟨c, hc, h⟩ := exists_of_bind_eq_ok h
  unfold comparisonTableAnchors
  rw [hc]
  dsimp only [anchorsOf]
  split at h
  · rename_i hempty
    cases Except.ok.inj h
    simp [hempty]
  · rename_i hempty
    obtain ⟨table, htable, h⟩ := exists_of_bind_eq_ok h
    have htable' := Comparison.hasAnchors_of_table_eq_ok (mapError_eq_ok_iff.mp htable)
    have hverdict : (c.verdictNote.getD .empty).HasAnchors [] := by
      cases hv : c.verdictNote with
      | none => simp
      | some v => exact Comparison.hasAnchors_of_verdictNote_eq hv
    cases Except.ok.inj h
    simp (disch := simp (disch := simp) [htable', hverdict]) [htable', hverdict, hempty]

/-- The anchors of a calculator. -/
def quoteCalculatorAnchors : List Anchor :=
  anchorsOf (payload b Calculator.read) fun c => c.anchors (b.id ++ "-")

theorem hasAnchors_of_quoteCalculator_eq_ok {m : Markup} (h : b.quoteCalculator ctx = .ok m) :
    m.HasAnchors (quoteCalculatorAnchors b) := by
  obtain ⟨c, hc, h⟩ := exists_of_bind_eq_ok h
  unfold quoteCalculatorAnchors
  rw [hc]
  dsimp only [anchorsOf]
  cases Except.ok.inj h
  have hempty (hinputs : c.inputs = []) : c.anchors (b.id ++ "-") = [] := by
    simp [Calculator.anchors, hinputs]
  simpa (disch := simp (disch := simp)) using hempty

theorem hasAnchors_of_costBreakdown_eq_ok {m : Markup} (h : b.costBreakdown = .ok m) :
    m.HasAnchors [] := by
  obtain ⟨guide, -, h⟩ := exists_of_bind_eq_ok h
  obtain ⟨spans, -, h⟩ := exists_of_bind_eq_ok h
  cases Except.ok.inj h
  simp (disch := simp (disch := simp))

/-- The anchors of a contact form. -/
def leadFormAnchors : List Anchor :=
  anchorsOf ((b.content.records "fields").mapM fun f =>
    BlockError.ofChecked (LeadField.read (.obj f))) fun fields => (leadFormOf b fields).anchors

theorem hasAnchors_of_leadForm_eq_ok {m : Markup} (h : b.leadForm = .ok m) :
    m.HasAnchors (leadFormAnchors b) := by
  obtain ⟨fields, hfields, h⟩ := exists_of_bind_eq_ok h
  unfold leadFormAnchors
  rw [hfields]
  dsimp only [anchorsOf]
  cases Except.ok.inj h
  have hempty (hnone : fields = []) : (leadFormOf b fields).anchors = [] := by
    simp [LeadForm.anchors, leadFormOf, hnone]
  simpa (disch := simp (disch := simp)) using hempty

/-- The anchors of texts for regions. -/
def geoContentAnchors : List Anchor := anchorsOf (payload b GeoGuide.read) GeoGuide.anchors

theorem hasAnchors_of_geoContent_eq_ok {m : Markup} (h : b.geoContent = .ok m) :
    m.HasAnchors (geoContentAnchors b) := by
  obtain ⟨g, hg, h⟩ := exists_of_bind_eq_ok h
  unfold geoContentAnchors
  rw [hg]
  cases Except.ok.inj h
  exact g.hasAnchors_texts

/-- The anchors of a map of regions. -/
def interactiveMapAnchors : List Anchor :=
  (RegionMap.ofEntries? (mapEntries b) (b.content.text "fallback")).toList.flatMap fun m =>
    RegionMap.anchors { m with showList := b.config.flag "showDropdown" true }

@[simp]
theorem hasAnchors_interactiveMap : b.interactiveMap.HasAnchors (interactiveMapAnchors b) := by
  unfold interactiveMap interactiveMapAnchors
  cases RegionMap.ofEntries? (mapEntries b) (b.content.text "fallback") with
  | none => simp
  | some m =>
    refine (RegionMap.hasAnchors_markup _).imp_right fun h => h.trans ?_
    exact (List.append_nil _).symm

/-- The anchors of a wizard. -/
def wizardAnchors : List Anchor :=
  anchorsOf (payload b Wizard.read) fun w => if w.steps.isEmpty then [] else w.anchors

theorem hasAnchors_of_wizard_eq_ok {m : Markup} (h : b.wizard ctx = .ok m) :
    m.HasAnchors (wizardAnchors b) := by
  obtain ⟨w, hw, h⟩ := exists_of_bind_eq_ok h
  unfold wizardAnchors
  rw [hw]
  dsimp only [anchorsOf]
  cases Except.ok.inj h
  simp (disch := simp (disch := simp))

/-! ### Figures -/

@[simp]
theorem hasAnchors_circle {attrs : List Markup} (h : ∀ a ∈ attrs, a.IsAttribute) :
    (circle attrs).HasAnchors ((attrs.flatMap attributes).flatMap Anchor.ofAttribute) := by
  obtain ⟨hwhole, htags⟩ := isWhole_of_text (m := circle attrs) "circle" rfl h ['/']
    (by simp) (by decide) (by
      unfold circle
      rw [toList_append, toList_append, List.append_assoc]
      rfl)
  exact ⟨hwhole, by rw [Markup.anchors, Markup.read, htags, List.flatMap_singleton]; rfl⟩

theorem hasAnchors_of_mem_ring {percent : Nat} {m : Markup} (h : m ∈ ring percent) :
    m.HasAnchors [] := by
  have hall : ∀ m ∈ ring percent, m.HasAnchors [] := by
    unfold ring ringShape
    simp (disch := simp (disch := simp))
  exact hall m h

theorem hasAnchors_of_statCard_eq_ok {stat : Fields} {m : Markup} (h : statCard stat = .ok m) :
    m.HasAnchors [] := by
  obtain ⟨percent, -, h⟩ := exists_of_bind_eq_ok h
  cases Except.ok.inj h
  have hwhole m (hm : m ∈ ring percent) := (hasAnchors_of_mem_ring hm).1
  have hread : (ring percent).flatMap Markup.anchors = [] :=
    List.flatMap_eq_nil_iff.mpr fun m hm => (hasAnchors_of_mem_ring hm).2
  simp (disch := simp (disch := simp) [eq_true hwhole]) [read_append, hread]

@[simp]
theorem hasAnchors_groupChip (className group label : String) :
    (groupChip className group label).HasAnchors [] := by
  unfold groupChip
  simp (disch := simp (disch := simp))

@[simp]
theorem hasAnchors_groupChips (groups : List String) : (groupChips groups).HasAnchors [] := by
  unfold groupChips
  simp (disch := simp (disch := simp)) [List.flatMap_map]

/-- The anchors of figures. -/
def statGridAnchors : List Anchor :=
  if (b.content.recordsWith "items" "title").isEmpty then [] else [.name ("stat-grid-" ++ b.id)]

theorem hasAnchors_of_statGrid_eq_ok {m : Markup} (h : b.statGrid = .ok m) :
    m.HasAnchors (statGridAnchors b) := by
  obtain ⟨cards, hcards, h⟩ := exists_of_bind_eq_ok h
  obtain ⟨hwhole, hread⟩ :=
    hasAnchors_of_mapM_eq_ok _ hcards fun _ _ => hasAnchors_of_statCard_eq_ok
  cases Except.ok.inj h
  unfold statGridAnchors
  simp (disch := simp (disch := simp) [eq_true hwhole]) [hread]

@[simp]
theorem hasAnchors_columnHeading (sortable : Bool) (index : Nat) (label : String) :
    (columnHeading sortable index label).HasAnchors [] := by
  unfold columnHeading sortIndicator
  split <;> simp (disch := simp (disch := simp)) [read_append]

theorem hasAnchors_of_dataRow_eq_ok {cells : List Json} {m : Markup} (h : dataRow cells = .ok m) :
    m.HasAnchors [] := by
  obtain ⟨row, hrow, h⟩ := exists_of_bind_eq_ok h
  obtain ⟨hwhole, hread⟩ := hasAnchors_of_mapM_eq_ok (fun _ => []) hrow fun v m hm => by
    obtain ⟨text, -, hm⟩ := exists_of_bind_eq_ok hm
    cases Except.ok.inj hm
    exact hasAnchors_valueCell text
  cases Except.ok.inj h
  simp (disch := simp (disch := simp) [eq_true hwhole]) [hread]

/-- The anchors of a table of data. -/
def dataTableAnchors : List Anchor :=
  if (b.content.items "headers").isEmpty ||
      ((b.content.items "rows").filterMap Json.asArray?).isEmpty then []
  else [.name ("data-table-" ++ b.id)]

theorem hasAnchors_of_dataTable_eq_ok {m : Markup} (h : b.dataTable = .ok m) :
    m.HasAnchors (dataTableAnchors b) := by
  unfold dataTable at h
  unfold dataTableAnchors
  dsimp only at h
  rw [List.isEmpty_map] at h
  split at h
  · rename_i hempty
    cases Except.ok.inj h
    rw [if_pos hempty]
    simp
  · rename_i hempty
    obtain ⟨body, hbody, h⟩ := exists_of_bind_eq_ok h
    obtain ⟨hwhole, hread⟩ :=
      hasAnchors_of_mapM_eq_ok _ hbody fun _ _ => hasAnchors_of_dataRow_eq_ok
    obtain ⟨hwhole', hread'⟩ := hasAnchors_mapIdx _
      (hasAnchors_columnHeading (b.config.flag "sortable" true))
      ((b.content.items "headers").map Json.display)
    cases Except.ok.inj h
    rw [if_neg hempty]
    -- Only the anchors of the headings are of use, so what they are made from is forgotten.
    generalize List.mapIdx _ ((b.content.items "headers").map Json.display) = headings
      at hwhole' hread' ⊢
    simp (disch := simp (disch := simp) [eq_true hwhole, eq_true hwhole'])
      [read_append, hread, hread']

/-! ### Header, footer and hero -/

/-- The anchors of a header. -/
def headerAnchors : List Anchor := .link "/" :: (b.content.records "navLinks").map recordAnchor

@[simp]
theorem hasAnchors_header : (b.header ctx).HasAnchors (headerAnchors b) := by
  unfold header headerAnchors
  dsimp only
  generalize b.content.records "navLinks" = links
  split <;> cases links <;>
    simp (disch := simp (disch := simp)) [List.flatMap_map, ← List.map_eq_flatMap]

/-- The anchors of a footer: those of its columns, if it has any. -/
def footerAnchors : List Anchor :=
  if b.variantOr "minimal" == "multi-column" then
    (b.content.records "columns").flatMap fun column => (column.records "links").map recordAnchor
  else []

@[simp]
theorem hasAnchors_footerColumn (column : Fields) :
    (footerColumn column).HasAnchors ((column.records "links").map recordAnchor) := by
  unfold footerColumn
  simp (disch := simp (disch := simp)) [read_append, List.flatMap_map, ← List.map_eq_flatMap]

@[simp]
theorem hasAnchors_footerColumns (columns : List Fields) :
    (footerColumns columns).HasAnchors
      (columns.flatMap fun column => (column.records "links").map recordAnchor) := by
  unfold footerColumns
  cases columns <;> simp (disch := simp (disch := simp)) [List.flatMap_map]

@[simp]
theorem hasAnchors_newsletter (content : Fields) : (newsletter content).HasAnchors [] := by
  unfold newsletter
  simp (disch := simp (disch := simp))

theorem hasAnchors_of_footer_eq_ok {m : Markup} (h : b.footer ctx = .ok m) :
    m.HasAnchors (footerAnchors b) := by
  obtain ⟨year, -, h⟩ := exists_of_bind_eq_ok h
  cases Except.ok.inj h
  unfold footerAnchors
  split
  · simp (disch := simp (disch := simp)) [read_append]
  · split <;> simp (disch := simp (disch := simp)) [read_append]

@[simp]
theorem hasAnchors_hero : (b.hero ctx).HasAnchors (givenAnchors b.content) := by
  unfold hero
  simp (disch := simp (disch := simp))

/-! ### Downloads, embedded pages and cards that link -/

/-- The anchors of a document to download, which is named if it is given away for an address. -/
def pdfDownloadAnchors : List Anchor :=
  (documentUrl? b).toList.flatMap fun url =>
    (if b.config.flag "gated" false then [.name ("pdf-gate-" ++ b.id)] else []) ++ [.link url]

@[simp]
theorem hasAnchors_pdfDownload : b.pdfDownload.HasAnchors (pdfDownloadAnchors b) := by
  unfold pdfDownload pdfDownloadAnchors
  cases documentUrl? b with
  | none => simp
  | some url =>
    cases b.config.flag "gated" false <;>
      simp (disch := simp (disch := simp)) [gatedDownload, openDownload]

@[simp]
theorem hasAnchors_embedWidget : b.embedWidget.HasAnchors [] := by
  unfold embedWidget
  dsimp only
  split <;> simp (disch := simp (disch := simp)) [read_append]

@[simp]
theorem hasAnchors_resourceCard (r : Fields) : (resourceCard r).HasAnchors [recordAnchor r] := by
  unfold resourceCard recordAnchor
  simp (disch := simp (disch := simp))

@[simp]
theorem hasAnchors_resourceGrid :
    b.resourceGrid.HasAnchors ((b.content.recordsWith "items" "title").map recordAnchor) := by
  unfold resourceGrid
  dsimp only
  generalize b.content.recordsWith "items" "title" = resources
  cases resources <;>
    simp (disch := simp (disch := simp)) [List.flatMap_map, ← List.map_eq_flatMap]

/-- The image of a card is a tag that is written by hand, with an address in its style. -/
theorem hasAnchors_imageTag (url : String) :
    (html "<div class=\"article-card-img\" style=\"background-image:url('" ++ esc url ++
      html "')\">").HasAnchors [] := by
  have hstyle {c : Char} (hc : c ∈ ['<', '>', '"'])
      (hends : c ∉ "background-image:url('".toList ++ "')".toList) :
      c ∉ "background-image:url('".toList ++ (esc url).text.toList ++ "')".toList := by
    simp only [List.mem_append, not_or] at hends ⊢
    exact ⟨⟨hends.1, notMem_toList_esc url hc⟩, hends.2⟩
  generalize hstyle' : "background-image:url('".toList ++ (esc url).text.toList ++ "')".toList =
    style at hstyle
  let attributes := "div class=".toList ++ '"' :: ("article-card-img".toList ++ '"' ::
    (" style=".toList ++ '"' :: (style ++ '"' :: [])))
  have hbracket {c : Char} (hc : c ∈ ['<', '>']) : c ∉ attributes := by
    simp only [attributes, List.mem_append, List.mem_cons, not_or]
    simp only [List.mem_cons, List.not_mem_nil, or_false] at hc
    rcases hc with rfl | rfl <;>
      exact ⟨by decide, by decide, by decide, by decide, by decide, by decide,
        hstyle (by decide) (by decide), by decide, by decide⟩
  obtain ⟨hwhole, htags⟩ := isWhole_of_tag (m := html
      "<div class=\"article-card-img\" style=\"background-image:url('" ++ esc url ++ html "')\">")
    (attributes ++ ['>']) (by simp [attributes, ← hstyle', toList_append, html])
    (by rw [List.mem_append, not_or]; exact ⟨hbracket (by decide), by decide⟩)
    (List.mem_append_right _ List.mem_cons_self)
  refine ⟨hwhole, ?_⟩
  -- The two values of the tag stand between its quotes.
  have hread : quotedAttributes (Text.splitOnChar '"' attributes) =
      [("class", "article-card-img"), ("style", String.ofList (unescape style))] := by
    rw [quotedAttributes_append (by decide) (by decide),
      quotedAttributes_append (by decide) (hstyle (by decide) (by decide))]
    rfl
  have htag : readTag? (attributes ++ ['>']) =
      some ⟨"div", [("class", "article-card-img"), ("style", String.ofList (unescape style))]⟩ := by
    have hname : (attributes ++ ['>']).takeWhile isNamePart = "div".toList := rfl
    have hbody : (attributes ++ ['>']).takeWhile (· != '>') = attributes := by
      rw [takeWhile_bne_append (hbracket (by decide))]
      exact List.append_nil _
    unfold readTag?
    dsimp only
    rw [hname, hbody, hread]
    simp
  rw [Markup.anchors, Markup.read, htags, htag]
  simp

@[simp]
theorem hasAnchors_articleImage (a : Fields) : (articleImage a).HasAnchors [] := by
  unfold articleImage
  split
  · rename_i url _
    obtain ⟨hwhole, hread⟩ := hasAnchors_imageTag url
    refine ⟨isWhole_append hwhole (isWhole_endTag rfl), (read_append hwhole).trans ?_⟩
    rw [read_endTag rfl, List.append_nil]
    exact hread
  · simp (disch := simp (disch := simp))

@[simp]
theorem hasAnchors_articleCard (a : Fields) : (articleCard a).HasAnchors [recordAnchor a] := by
  unfold articleCard recordAnchor
  simp (disch := simp (disch := simp))

@[simp]
theorem hasAnchors_latestArticles :
    b.latestArticles.HasAnchors ((b.content.recordsWith "articles" "title").map recordAnchor) := by
  unfold latestArticles
  dsimp only
  generalize b.content.recordsWith "articles" "title" = articles
  cases articles <;>
    simp (disch := simp (disch := simp)) [List.flatMap_map, ← List.map_eq_flatMap]

/-! ### Trust -/

/-- The link to a source, if it has an address. -/
@[simp]
theorem hasAnchors_source (s : Fields) : (source s).HasAnchors (productAnchors s) := by
  unfold source productAnchors
  dsimp only
  cases s.text? "url" <;>
    simp (disch := simp (disch := simp (disch := simp))) [read_append]

@[simp]
theorem hasAnchors_citations :
    b.citations.HasAnchors ((b.content.recordsWith "sources" "title").flatMap productAnchors) := by
  unfold citations
  dsimp only
  generalize b.content.recordsWith "sources" "title" = sources
  cases sources <;> simp (disch := simp (disch := simp)) [List.flatMap_map]

@[simp]
theorem hasAnchors_lastUpdated : b.lastUpdated.HasAnchors [] := by
  unfold lastUpdated
  simp (disch := simp (disch := simp)) [read_append]

@[simp]
theorem hasAnchors_trustBadge (badge : Fields) : (trustBadge badge).HasAnchors [] := by
  unfold trustBadge
  dsimp only
  split <;> simp (disch := simp (disch := simp)) [read_append]

@[simp]
theorem hasAnchors_trustBadges : b.trustBadges.HasAnchors [] := by
  unfold trustBadges
  simp (disch := simp (disch := simp)) [List.flatMap_map]

@[simp]
theorem hasAnchors_doctorAdvice : doctorAdvice.HasAnchors [] := by
  unfold doctorAdvice
  simp (disch := simp (disch := simp))

@[simp]
theorem hasAnchors_medicalDisclaimer : b.medicalDisclaimer.HasAnchors [] := by
  unfold medicalDisclaimer
  simp (disch := simp (disch := simp)) [read_append]

/-! ### Prices -/

@[simp]
theorem hasAnchors_planFeature (text : String) : (planFeature text).HasAnchors [] := by
  unfold planFeature
  simp (disch := simp (disch := simp)) [read_append]

@[simp]
theorem hasAnchors_planCard (plan : Fields) : (planCard plan).HasAnchors (givenAnchors plan) := by
  unfold planCard
  simp (disch := simp (disch := simp)) [read_append, List.flatMap_map]

@[simp]
theorem hasAnchors_pricingTable :
    b.pricingTable.HasAnchors ((b.content.recordsWith "plans" "name").flatMap givenAnchors) := by
  unfold pricingTable
  dsimp only
  generalize b.content.recordsWith "plans" "name" = plans
  cases plans <;> simp (disch := simp (disch := simp)) [List.flatMap_map]

/-! ### Reviews -/

theorem hasAnchors_of_ratingIn_eq_ok {className : String} {rating : Option Numeral} {m : Markup}
    (h : ratingIn className rating = .ok m) : m.HasAnchors [] := by
  unfold ratingIn at h
  split at h
  · cases Except.ok.inj h
    simp
  · obtain ⟨text, -, h⟩ := exists_of_bind_eq_ok h
    obtain ⟨sign, -, h⟩ := exists_of_bind_eq_ok h
    cases Except.ok.inj h
    simp (disch := simp (disch := simp))

@[simp]
theorem hasAnchors_meritList (start key heading kind icon : String) (fs : Fields) :
    (meritList start key heading kind icon fs).HasAnchors [] := by
  unfold meritList
  simp (disch := simp (disch := simp)) [read_append, List.flatMap_map]

@[simp]
theorem hasAnchors_merits (start : String) (fs : Fields) : (merits start fs).HasAnchors [] := by
  unfold merits
  simp (disch := simp (disch := simp)) [read_append]

/-- The anchors of the card of a product. -/
def prosConsAnchors : List Anchor :=
  if (b.content.text? "name").isSome then productAnchors b.content else []

theorem hasAnchors_of_prosConsCard_eq_ok {m : Markup} (h : b.prosConsCard = .ok m) :
    m.HasAnchors (prosConsAnchors b) := by
  unfold prosConsCard at h
  unfold prosConsAnchors
  split at h
  · rename_i hname
    cases Except.ok.inj h
    simp [hname]
  · rename_i name hname
    obtain ⟨rating, hrating, h⟩ := exists_of_bind_eq_ok h
    have hstars := hasAnchors_of_ratingIn_eq_ok hrating
    cases Except.ok.inj h
    simp (disch := simp (disch := simp) [hstars]) [hstars, hname]

theorem hasAnchors_of_scoreBar_eq_ok {score : Option Numeral} {m : Markup}
    (h : scoreBar score = .ok m) : m.HasAnchors [] := by
  unfold scoreBar at h
  split at h
  · cases Except.ok.inj h
    simp
  · obtain ⟨width, -, h⟩ := exists_of_bind_eq_ok h
    cases Except.ok.inj h
    simp (disch := simp (disch := simp))

theorem hasAnchors_of_rankingItem_eq_ok {position : Nat} {e : Fields} {m : Markup}
    (h : rankingItem position e = .ok m) : m.HasAnchors (productAnchors e) := by
  obtain ⟨rank, -, h⟩ := exists_of_bind_eq_ok h
  obtain ⟨rating, hrating, h⟩ := exists_of_bind_eq_ok h
  obtain ⟨score, hscore, h⟩ := exists_of_bind_eq_ok h
  have hstars := hasAnchors_of_ratingIn_eq_ok hrating
  have hbar := hasAnchors_of_scoreBar_eq_ok hscore
  cases Except.ok.inj h
  simp (disch := simp (disch := simp) [hstars, hbar]) [hstars, hbar]

theorem hasAnchors_of_rankingList_eq_ok {m : Markup} (h : b.rankingList = .ok m) :
    m.HasAnchors ((b.content.recordsWith "items" "name").flatMap productAnchors) := by
  obtain ⟨rows, hrows, h⟩ := exists_of_bind_eq_ok h
  obtain ⟨hwhole, hread⟩ := hasAnchors_of_mapM_eq_ok (fun p => productAnchors p.2) hrows
    fun _ _ => hasAnchors_of_rankingItem_eq_ok
  have hentries := flatMap_mapIdx (f := fun i (e : Fields) => (i + 1, e))
    (g := fun p => productAnchors p.2) (k := productAnchors) (fun _ _ => rfl)
    (b.content.recordsWith "items" "name")
  rw [hentries] at hread
  cases Except.ok.inj h
  cases hempty : b.content.recordsWith "items" "name" <;> rw [hempty] at hread <;>
  simp (disch := simp (disch := simp) [eq_true hwhole]) [hread]

theorem hasAnchors_of_versusSide_eq_ok {product : Fields} {wins : Bool} {m : Markup}
    (h : versusSide product wins = .ok m) : m.HasAnchors (productAnchors product) := by
  obtain ⟨rating, hrating, h⟩ := exists_of_bind_eq_ok h
  have hstars := hasAnchors_of_ratingIn_eq_ok hrating
  cases Except.ok.inj h
  simp (disch := simp (disch := simp) [hstars]) [hstars]

/-- The anchors of two products side by side. -/
def versusAnchors : List Anchor :=
  let first := b.content.object "itemA"
  let second := b.content.object "itemB"
  if first.isEmpty || second.isEmpty then [] else productAnchors first ++ productAnchors second

theorem hasAnchors_of_versusCard_eq_ok {m : Markup} (h : b.versusCard = .ok m) :
    m.HasAnchors (versusAnchors b) := by
  unfold versusCard at h
  unfold versusAnchors
  dsimp only at h ⊢
  split at h
  · rename_i hempty
    cases Except.ok.inj h
    rw [if_pos hempty]
    simp
  · rename_i hempty
    obtain ⟨left, hleft, h⟩ := exists_of_bind_eq_ok h
    obtain ⟨right, hright, h⟩ := exists_of_bind_eq_ok h
    have hfirst := hasAnchors_of_versusSide_eq_ok hleft
    have hsecond := hasAnchors_of_versusSide_eq_ok hright
    cases Except.ok.inj h
    rw [if_neg hempty]
    simp (disch := simp (disch := simp) [hfirst, hsecond]) [read_append, hfirst, hsecond]

theorem hasAnchors_of_testimonial_eq_ok {e : Fields} {m : Markup} (h : testimonial e = .ok m) :
    m.HasAnchors [] := by
  unfold testimonial at h
  split at h
  · cases Except.ok.inj h
    simp (disch := simp (disch := simp)) [read_append]
  · obtain ⟨text, -, h⟩ := exists_of_bind_eq_ok h
    cases Except.ok.inj h
    simp (disch := simp (disch := simp)) [read_append]

theorem hasAnchors_of_testimonialGrid_eq_ok {m : Markup} (h : b.testimonialGrid = .ok m) :
    m.HasAnchors [] := by
  obtain ⟨cards, hcards, h⟩ := exists_of_bind_eq_ok h
  obtain ⟨hwhole, hread⟩ :=
    hasAnchors_of_mapM_eq_ok _ hcards fun _ _ => hasAnchors_of_testimonial_eq_ok
  cases Except.ok.inj h
  simp (disch := simp (disch := simp) [eq_true hwhole]) [hread]

end Block

/-! ### Blocks -/

/-- **The anchors of a block of a type**, in the order of the page. -/
def BlockKind.anchors (b : Block) (ctx : BlockContext) : BlockKind → List Anchor
  | .articleBody => b.articleAnchors ctx
  | .ctaBanner => b.ctaBannerAnchors
  | .scrollCta => b.scrollCtaAnchors
  | .checklist | .stepByStep => b.checklistAnchors
  | .citations => (b.content.recordsWith "sources" "title").flatMap Block.productAnchors
  | .comparisonTable => b.comparisonTableAnchors
  | .dataTable => b.dataTableAnchors
  | .faq => b.faqAnchors
  | .footer => b.footerAnchors
  | .geoContent => b.geoContentAnchors
  | .header => b.headerAnchors
  | .hero => Block.givenAnchors b.content
  | .interactiveMap => b.interactiveMapAnchors
  | .latestArticles => (b.content.recordsWith "articles" "title").map Block.recordAnchor
  | .leadForm => b.leadFormAnchors
  | .pdfDownload => b.pdfDownloadAnchors
  | .pricingTable => (b.content.recordsWith "plans" "name").flatMap Block.givenAnchors
  | .prosConsCard => b.prosConsAnchors
  | .quoteCalculator => b.quoteCalculatorAnchors
  | .rankingList => (b.content.recordsWith "items" "name").flatMap Block.productAnchors
  | .resourceGrid => (b.content.recordsWith "items" "title").map Block.recordAnchor
  | .sidebar => b.sidebarAnchors
  | .statGrid => b.statGridAnchors
  | .versusCard => b.versusAnchors
  | .wizard => b.wizardAnchors
  | .authorBio | .costBreakdown | .embedWidget | .lastUpdated | .medicalDisclaimer
  | .testimonialGrid | .trustBadges => []

theorem Block.hasAnchors_of_pure_eq_ok {m n : Markup} {as : List Anchor} (hm : m.HasAnchors as)
    (h : (pure m : BlockResult) = .ok n) : n.HasAnchors as := by
  cases h
  exact hm

open Block in
theorem BlockKind.hasAnchors_of_render_eq_ok {b : Block} {ctx : BlockContext} {kind : BlockKind}
    {m : Markup} (h : kind.render b ctx = .ok m) : m.HasAnchors (kind.anchors b ctx) := by
  cases kind with
  | articleBody => exact hasAnchors_of_articleBody_eq_ok b ctx h
  | comparisonTable => exact hasAnchors_of_comparisonTable_eq_ok b h
  | costBreakdown => exact hasAnchors_of_costBreakdown_eq_ok b h
  | dataTable => exact hasAnchors_of_dataTable_eq_ok b h
  | footer => exact hasAnchors_of_footer_eq_ok b ctx h
  | geoContent => exact hasAnchors_of_geoContent_eq_ok b h
  | leadForm => exact hasAnchors_of_leadForm_eq_ok b h
  | prosConsCard => exact hasAnchors_of_prosConsCard_eq_ok b h
  | quoteCalculator => exact hasAnchors_of_quoteCalculator_eq_ok b ctx h
  | rankingList => exact hasAnchors_of_rankingList_eq_ok b h
  | statGrid => exact hasAnchors_of_statGrid_eq_ok b h
  | testimonialGrid => exact hasAnchors_of_testimonialGrid_eq_ok b h
  | versusCard => exact hasAnchors_of_versusCard_eq_ok b h
  | wizard => exact hasAnchors_of_wizard_eq_ok b ctx h
  -- The others cannot fail.
  | authorBio => exact hasAnchors_of_pure_eq_ok (hasAnchors_authorBio b) h
  | ctaBanner => exact hasAnchors_of_pure_eq_ok (hasAnchors_ctaBanner b) h
  | checklist => exact hasAnchors_of_pure_eq_ok (Block.hasAnchors_checklist b) h
  | citations => exact hasAnchors_of_pure_eq_ok (hasAnchors_citations b) h
  | embedWidget => exact hasAnchors_of_pure_eq_ok (hasAnchors_embedWidget b) h
  | faq => exact hasAnchors_of_pure_eq_ok (hasAnchors_faq b) h
  | header => exact hasAnchors_of_pure_eq_ok (hasAnchors_header b ctx) h
  | hero => exact hasAnchors_of_pure_eq_ok (hasAnchors_hero b ctx) h
  | interactiveMap => exact hasAnchors_of_pure_eq_ok (hasAnchors_interactiveMap b) h
  | lastUpdated => exact hasAnchors_of_pure_eq_ok (hasAnchors_lastUpdated b) h
  | latestArticles => exact hasAnchors_of_pure_eq_ok (hasAnchors_latestArticles b) h
  | medicalDisclaimer => exact hasAnchors_of_pure_eq_ok (hasAnchors_medicalDisclaimer b) h
  | pdfDownload => exact hasAnchors_of_pure_eq_ok (hasAnchors_pdfDownload b) h
  | pricingTable => exact hasAnchors_of_pure_eq_ok (hasAnchors_pricingTable b) h
  | resourceGrid => exact hasAnchors_of_pure_eq_ok (hasAnchors_resourceGrid b) h
  | scrollCta => exact hasAnchors_of_pure_eq_ok (hasAnchors_scrollCta b) h
  | sidebar => exact hasAnchors_of_pure_eq_ok (hasAnchors_sidebar b) h
  | stepByStep => exact hasAnchors_of_pure_eq_ok (Block.hasAnchors_checklist b) h
  | trustBadges => exact hasAnchors_of_pure_eq_ok (hasAnchors_trustBadges b) h

namespace Block

variable (b : Block) (ctx : BlockContext)

/-- The anchors of a block. One that cannot be rendered has none. -/
def anchors : List Anchor :=
  match BlockKind.named? b.type with
  | none => []
  | some kind => anchorsOf (kind.render b ctx) fun _ => kind.anchors b ctx

/-- A comment that takes the place of a block has no anchors. -/
theorem hasAnchors_comment {reason : String} (h : ∀ c ∈ ['<', '>'], c ∉ reason.toList)
    (type : String) : (comment reason type).HasAnchors [] := by
  unfold comment
  generalize commentName type = name
  have hesc {c : Char} (hc : c ∈ ['<', '>']) := notMem_toList_esc name
    (List.mem_append_left ['"'] hc)
  -- A comment is read as a tag, whose name begins with an exclamation mark and so is none.
  obtain ⟨hwhole, htags⟩ := isWhole_of_tag
    (m := html ("<!-- " ++ reason ++ ": ") ++ esc name ++ html " -->")
    ("!-- ".toList ++ reason.toList ++ ": ".toList ++ (esc name).text.toList ++ " -->".toList)
    (by simp [toList_append, html])
    (by
      simp only [List.mem_append, not_or]
      exact ⟨⟨⟨⟨by decide, h _ (by decide)⟩, by decide⟩, hesc (by decide)⟩, by decide⟩)
    (List.mem_append_right _ (by decide))
  refine ⟨hwhole, ?_⟩
  rw [Markup.anchors, Markup.read, htags, readTag?_of_isDeadTag (by rfl)]
  rfl

/-- **The markup of a block has the anchors of the block.** -/
@[simp]
theorem hasAnchors_markup : (b.markup ctx).HasAnchors (b.anchors ctx) := by
  unfold markup Block.anchors
  cases BlockKind.named? b.type with
  | none => exact hasAnchors_comment (by simp) b.type
  | some kind =>
    dsimp only
    cases h : kind.render b ctx with
    | ok m => exact BlockKind.hasAnchors_of_render_eq_ok h
    | error e => exact hasAnchors_comment (by simp) b.type

end Block

end StaticSite
