import StaticSite.Page.Contents
import StaticSite.Proofs.Page.Anchors
import StaticSite.Proofs.Page.Frame

/-!
# The anchors of the page of an article

The page of an article has the links of its frame, the anchors that its type contributes
(`Article.contentAnchors`), and the links to its sources. The text of an article need not be whole
markup: it stands before a tag of the page, which ends it, wherever a type puts it.
-/

namespace StaticSite

/-! ### Contents that need not be whole -/

namespace Markup

theorem beginsWithTag_startTag (name : String) (attrs : List Markup) :
    (startTag name attrs).BeginsWithTag := by
  have hname : (html ("<" ++ name)).text.toList = '<' :: name.toList := String.toList_append
  refine ⟨name.toList ++ ((concat attrs).text.toList ++ ['>']), ?_⟩
  unfold startTag
  rw [toList_append, toList_append, hname, List.append_assoc]
  rfl

theorem BeginsWithTag.append {m : Markup} (h : m.BeginsWithTag) (n : Markup) :
    (m ++ n).BeginsWithTag := by
  obtain ⟨cs, hcs⟩ := h
  exact ⟨cs ++ n.text.toList, by rw [toList_append, hcs, List.cons_append]⟩

theorem BeginsWithTag.joinWith_cons {m : Markup} (h : m.BeginsWithTag) (sep : String)
    (ms : List Markup) : (joinWith sep (m :: ms)).BeginsWithTag := by
  cases ms with
  | nil =>
    rw [joinWith_singleton]
    exact h
  | cons n ms =>
    rw [joinWith_cons_cons]
    exact (h.append _).append _

theorem isEmpty_or_beginsWithTag_when {m : Markup} (h : m.BeginsWithTag) (c : Bool) :
    (Markup.when c m).isEmpty = true ∨ (Markup.when c m).BeginsWithTag := by
  cases c
  · exact .inl rfl
  · exact .inr h

theorem isEmpty_or_beginsWithTag_whenSome {α : Type} {f : α → Markup}
    (h : ∀ a, (f a).isEmpty = true ∨ (f a).BeginsWithTag) (o : Option α) :
    (whenSome o f).isEmpty = true ∨ (whenSome o f).BeginsWithTag := by
  cases o with
  | none => exact .inl rfl
  | some a => exact h a

/-- Contents behind which text without brackets stands, and then a tag. -/
theorem HasAnchors.behind_html {m : Markup} {as : List Anchor} (hm : m.HasAnchors as)
    (htag : m.BeginsWithTag) {s : String} (hs : ∀ c ∈ ['<', '>'], c ∉ s.toList)
    (contents : Markup) : (contents ++ html s ++ m).HasAnchors (contents.anchors ++ as) := by
  have hcontents : (contents ++ html s).anchors = contents.anchors := by
    unfold anchors read
    rw [tags_append_html contents hs]
  rw [← hcontents]
  exact hm.behind htag _

/-- Lines of which the last one need not be whole. -/
theorem anchors_lines_concat {ms : List Markup} (h : ∀ m ∈ ms, m.IsWhole) (contents : Markup) :
    (lines (ms ++ [contents])).anchors = ms.flatMap anchors ++ contents.anchors := by
  unfold anchors read
  rw [lines, tags_joinWith_concat (by decide) h, List.flatMap_append, List.flatMap_assoc]

theorem anchors_of_isEmpty {m : Markup} (h : m.isEmpty = true) : m.anchors = [] := by
  refine read_of_tags_eq_nil ?_
  unfold tags
  rw [String.isEmpty_iff.mp h]
  rfl

/-- Pieces one below the other, of which the first need not be whole: tags follow it. -/
theorem anchors_stack_cons (contents : Markup) {ms : List Markup} (hwhole : ∀ m ∈ ms, m.IsWhole)
    (htag : ∀ m ∈ ms, m.isEmpty = true ∨ m.BeginsWithTag) :
    (stack (contents :: ms)).anchors = contents.anchors ++ ms.flatMap anchors := by
  have hrest : (stack ms).anchors = ms.flatMap anchors := read_stack hwhole
  have hpart : ∀ m ∈ ms.filter (fun m => !m.isEmpty), m.IsWhole ∧ m.BeginsWithTag := by
    intro m hm
    obtain ⟨hm, hpresent⟩ := List.mem_filter.mp hm
    refine ⟨hwhole m hm, (htag m hm).resolve_left fun hempty => ?_⟩
    rw [hempty] at hpresent
    cases hpresent
  unfold stack at hrest ⊢
  rw [← hrest]
  -- Empty pieces are left out of the stack, so that what follows the first one begins with a tag.
  by_cases hempty : contents.isEmpty = true
  · rw [List.filter_cons_of_neg (by simp [hempty]), anchors_of_isEmpty hempty, List.nil_append]
  · rw [List.filter_cons_of_pos (by simp [hempty])]
    generalize ms.filter (fun m => !m.isEmpty) = parts at hpart
    cases parts with
    | nil =>
      unfold lines
      rw [joinWith_singleton]
      exact (List.append_nil _).symm
    | cons m parts =>
      have hlines : (lines (m :: parts)).IsWhole := isWhole_lines fun m hm => (hpart m hm).1
      have htag := (hpart m List.mem_cons_self).2.joinWith_cons "\n" parts
      rw [lines, joinWith_cons_cons]
      exact (HasAnchors.behind_html ⟨hlines, rfl⟩ htag (by simp) contents).2

/-- Pieces one below the other, of which the first is whole. -/
theorem HasAnchors.anchors_stack_cons {m : Markup} {as : List Anchor} (hm : m.HasAnchors as)
    (ms : List Markup) : (stack (m :: ms)).anchors = as ++ (stack ms).anchors := by
  unfold stack
  by_cases hempty : m.isEmpty = true
  · rw [List.filter_cons_of_neg (by simp [hempty]), ← hm.2, anchors_of_isEmpty hempty,
      List.nil_append]
  · rw [List.filter_cons_of_pos (by simp [hempty])]
    cases ms.filter (fun m => !m.isEmpty) with
    | nil =>
      unfold lines
      rw [joinWith_singleton, hm.2]
      exact (List.append_nil _).symm
    | cons n parts =>
      have hbreak : (html "\n").HasAnchors [] := by simp
      have hfirst := hm.append hbreak
      rw [List.append_nil] at hfirst
      rw [lines, joinWith_cons_cons, hfirst.anchors_append]
      rfl

end Markup

open Markup

/-! ### The frame -/

/-- Links as anchors. -/
def NavLink.anchors (ls : List NavLink) : List Anchor := ls.map fun l => .link l.href

namespace Frame

@[simp]
theorem hasAnchors_navAnchor (l : NavLink) : l.anchor.HasAnchors [.link l.href] := by
  unfold NavLink.anchor
  simp (disch := simp (disch := simp))

@[simp]
theorem hasAnchors_navItem (l : NavLink) : l.item.HasAnchors [.link l.href] := by
  unfold NavLink.item
  simp (disch := simp (disch := simp))

@[simp]
theorem hasAnchors_navItems (ls : List NavLink) :
    (NavLink.items ls).HasAnchors (NavLink.anchors ls) := by
  unfold NavLink.items NavLink.anchors
  simp (disch := simp (disch := simp)) [List.flatMap_map, ← List.map_eq_flatMap]

variable (f : Frame)

/-- The anchors of the header. -/
def headerAnchors : List Anchor :=
  .link "/" ::
    if f.layout.header = .minimal then [] else NavLink.anchors (.home :: trustLinks f.settings)

theorem hasAnchors_header : f.header.HasAnchors f.headerAnchors := by
  unfold header headerAnchors NavLink.anchors
  dsimp only
  generalize NavLink.home :: trustLinks f.settings = links
  split <;> simp (disch := simp (disch := simp)) [List.flatMap_map, ← List.map_eq_flatMap]

@[simp]
theorem hasAnchors_linkColumn (heading : String) (links : List NavLink) :
    (Markup.rows (linkColumn heading links)).HasAnchors (NavLink.anchors links) := by
  unfold linkColumn
  simp (disch := simp (disch := simp))

/-- The anchors of the columns of links in the footer. -/
def columnAnchors : List Anchor :=
  .link "/" :: .link "/sitemap.xml" :: NavLink.anchors (trustLinks f.settings)

@[simp]
theorem hasAnchors_linkColumns : f.linkColumns.HasAnchors f.columnAnchors := by
  have hsite := hasAnchors_linkColumn "Site" [.home, ⟨"Sitemap", "/sitemap.xml"⟩]
  have htrust : (Markup.rows (if (trustLinks f.settings).isEmpty then []
      else linkColumn "Trust" (trustLinks f.settings))).HasAnchors
        (NavLink.anchors (trustLinks f.settings)) := by
    cases trustLinks f.settings with
    | nil => simp [NavLink.anchors]
    | cons l ls => exact hasAnchors_linkColumn "Trust" (l :: ls)
  have hstart :
      (Markup.rows [.indent 2 <| startTag "div" [cls "footer-columns"]]).HasAnchors [] := by
    simp (disch := simp (disch := simp))
  have hend : (Markup.rows [.indent 2 <| endTag "div"]).HasAnchors [] := by
    simp (disch := simp (disch := simp))
  have hall := ((hstart.append hsite).append htrust).append hend
  rw [List.append_nil, List.nil_append] at hall
  unfold linkColumns
  dsimp only
  rw [Markup.rows_append, Markup.rows_append, Markup.rows_append]
  exact hall

@[simp]
theorem hasAnchors_disclaimerLine : f.disclaimerLine.HasAnchors [] := by
  unfold disclaimerLine
  simp (disch := simp (disch := simp))

@[simp]
theorem hasAnchors_copyrightLine (more : String) : (f.copyrightLine more).HasAnchors [] := by
  unfold copyrightLine
  simp (disch := simp (disch := simp)) [read_append]

@[simp]
theorem hasAnchors_mailField : mailField.HasAnchors [] := by
  unfold mailField
  simp (disch := simp (disch := simp))

/-- The anchors of the footer. -/
def footerAnchors : List Anchor :=
  (if f.layout.footer = .ctaBar then [.link "/"] else []) ++ f.columnAnchors

theorem hasAnchors_footer : f.footer.HasAnchors f.footerAnchors := by
  unfold footer footerParts footerAnchors footerEnd invitation subscription
  cases f.layout.footer <;> simp (disch := simp (disch := simp))

/-- The anchors of the column beside the contents. -/
def sidebarAnchors : List Anchor := NavLink.anchors (f.links.take maxSidebarLinks)

theorem hasAnchors_sidebar : f.sidebar.HasAnchors f.sidebarAnchors := by
  unfold sidebar sidebarAnchors sidebarSection
  dsimp only
  generalize f.links.take maxSidebarLinks = links
  cases links <;> simp (disch := simp (disch := simp)) [NavLink.anchors]

end Frame

/-! ### Sources and notes -/

@[simp]
theorem hasAnchors_retrievedNote (t : Option Timestamp) : (retrievedNote t).HasAnchors [] := by
  unfold retrievedNote
  cases t <;> simp (disch := simp (disch := simp)) [read_append]

@[simp]
theorem hasAnchors_disclaimer (a : Article) (settings : Option Disclosure) :
    (disclaimer a settings).HasAnchors [] := by
  unfold disclaimer
  dsimp only
  split <;> simp (disch := simp (disch := simp))

@[simp]
theorem hasAnchors_sourceItem (number : Nat) (c : Citation) :
    (sourceItem number c).HasAnchors [.link c.sourceUrl] := by
  unfold sourceItem sourceLink
  simp (disch := simp (disch := simp)) [read_append]

/-- The links to cited sources, in the order of their positions. -/
def citationAnchors (citations : List Citation) : List Anchor :=
  (citations.mergeSort fun a b => a.position ≤ b.position).map fun c => .link c.sourceUrl

/-- The list of sources, with the number of each source counted from its position. -/
theorem sourceList_eq (citations : List Citation) : sourceList citations =
    let ordered := citations.mergeSort fun a b => a.position ≤ b.position
    if ordered.isEmpty then none
    else some (el "section" [cls "sources"] (el "h2" [] (esc "Sources") ++
      el "ol" [] (Markup.lines (ordered.zipIdx.map fun p => sourceItem (p.2 + 1) p.1)))) := rfl

theorem hasAnchors_sourceList (citations : List Citation) :
    ((sourceList citations).getD .empty).HasAnchors (citationAnchors citations) := by
  rw [sourceList_eq]
  unfold citationAnchors
  dsimp only
  generalize citations.mergeSort (fun a b => a.position ≤ b.position) = ordered
  have hitems (cs : List (Citation × Nat)) :
      (∀ m ∈ cs.map fun p => sourceItem (p.2 + 1) p.1, m.IsWhole) ∧
        (cs.map fun p => sourceItem (p.2 + 1) p.1).flatMap Markup.anchors =
          (cs.map Prod.fst).map fun c => .link c.sourceUrl := by
    refine ⟨List.forall_mem_map.mpr fun _ _ => (hasAnchors_sourceItem _ _).1, ?_⟩
    simp [List.flatMap_map, ← List.map_eq_flatMap]
  obtain ⟨hwhole, hread⟩ := hitems ordered.zipIdx
  rw [List.zipIdx_map_fst] at hread
  cases ordered with
  | nil => simp
  | cons c cs =>
    rw [← hread]
    generalize ((c :: cs).zipIdx.map fun p => sourceItem (p.2 + 1) p.1) = items at hwhole
    simp (disch := simp (disch := simp [eq_true hwhole]) [eq_true hwhole]) [read_append]

/-- Lines of which some may be missing. -/
theorem hasAnchors_lines_filterMap {os : List (Option Markup)}
    (h : ∀ o ∈ os, (o.getD .empty).IsWhole) :
    (lines (os.filterMap id)).HasAnchors (os.flatMap fun o => (o.getD .empty).anchors) := by
  have hlines : (∀ m ∈ os.filterMap id, m.IsWhole) ∧
      (os.filterMap id).flatMap Markup.anchors = os.flatMap fun o => (o.getD .empty).anchors := by
    induction os with
    | nil => exact ⟨fun _ h => absurd h List.not_mem_nil, rfl⟩
    | cons o os ih =>
      rw [List.forall_mem_cons] at h
      obtain ⟨hwhole, hread⟩ := ih h.2
      rw [List.flatMap_cons, ← hread]
      cases o with
      | none => exact ⟨hwhole, by simp⟩
      | some m => exact ⟨List.forall_mem_cons.mpr ⟨h.1, hwhole⟩, rfl⟩
  exact ⟨isWhole_lines hlines.1, (read_lines hlines.1).trans hlines.2⟩

theorem hasAnchors_affiliateNote (settings : Option Disclosure) :
    ((settings.bind affiliateNote).getD .empty).HasAnchors [] := by
  unfold affiliateNote
  cases settings with
  | none => simp
  | some d => cases h : present? d.affiliateDisclosure <;> simp (disch := simp (disch := simp)) [h]

theorem hasAnchors_reviewerNote (a : Article) (settings : Option Disclosure) :
    ((settings.bind (reviewerNote a)).getD .empty).HasAnchors [] := by
  unfold reviewerNote
  cases settings with
  | none => simp
  | some d =>
    cases h : d.showReviewedBy <;> cases present? a.reviewedBy <;>
      simp (disch := simp (disch := simp)) [h]

theorem hasAnchors_updatedNote (a : Article) (settings : Option Disclosure) :
    ((settings.bind (updatedNote a)).getD .empty).HasAnchors [] := by
  unfold updatedNote
  cases settings with
  | none => simp
  | some d =>
    cases h : d.showLastUpdated <;> cases a.times.updated <;>
      simp (disch := simp (disch := simp)) [h]

@[simp]
theorem hasAnchors_trustSection (a : Article) (settings : Option Disclosure)
    (citations : List Citation) :
    (trustSection a settings citations).HasAnchors (citationAnchors citations) := by
  have haffiliate := hasAnchors_affiliateNote settings
  have hsources := hasAnchors_sourceList citations
  have hreviewer := hasAnchors_reviewerNote a settings
  have hupdated := hasAnchors_updatedNote a settings
  refine (hasAnchors_lines_filterMap ?_).imp_right fun h => h.trans ?_
  · simp only [List.forall_mem_cons]
    exact ⟨haffiliate.1, hsources.1, hreviewer.1, hupdated.1,
      fun _ h => absurd h List.not_mem_nil⟩
  · rw [List.flatMap_cons, List.flatMap_cons, List.flatMap_cons, List.flatMap_cons, haffiliate.2,
      hsources.2, hreviewer.2, hupdated.2]
    simp

/-- The link to the source of a dataset, if it has one. -/
def Dataset.anchors (d : Dataset) : List Anchor := (present? d.sourceUrl).toList.map .link

@[simp]
theorem hasAnchors_datasetItem (d : Dataset) : (datasetItem d).HasAnchors d.anchors := by
  unfold datasetItem sourceLink Dataset.anchors
  dsimp only
  cases present? d.sourceUrl <;>
    simp (disch := simp (disch := simp (disch := simp))) [read_append]

@[simp]
theorem hasAnchors_dataSources (datasets : List Dataset) :
    (dataSources datasets).HasAnchors (datasets.flatMap Dataset.anchors) := by
  unfold dataSources
  cases datasets <;> simp (disch := simp (disch := simp)) [read_append, List.flatMap_map]

@[simp]
theorem hasAnchors_freshnessBadge (now : Timestamp) (a : Article) (datasets : List Dataset) :
    (freshnessBadge now a datasets).HasAnchors [] := by
  unfold freshnessBadge Freshness.badge
  split <;> simp (disch := simp (disch := simp)) [read_append]

@[simp]
theorem hasAnchors_printButton (t : ContentType) : (printButton t).HasAnchors [] := by
  unfold printButton
  simp (disch := simp (disch := simp))

/-! ### Contents -/

@[simp]
theorem CallToAction.hasAnchors_markup (c : CallToAction) :
    c.markup.HasAnchors [.link c.buttonUrl] := by
  unfold markup
  simp (disch := simp (disch := simp))

theorem CallToAction.beginsWithTag_markup (c : CallToAction) : c.markup.BeginsWithTag :=
  BeginsWithTag.joinWith_cons (beginsWithTag_startTag _ _) _ _

@[simp]
theorem hasAnchors_medicalNotice : medicalNotice.HasAnchors [] := by
  unfold medicalNotice
  simp (disch := simp (disch := simp)) [read_append]

@[simp]
theorem hasAnchors_missingWizard : missingWizard.HasAnchors [] := by
  unfold missingWizard
  simp (disch := simp (disch := simp))

/-- **What an article contributes has given anchors.** The notice above it and the script below it
have none. -/
structure ArticleParts.Contributes (p : ArticleParts) (as : List Anchor) : Prop where
  contents : p.contents.anchors = as
  notice : p.notice.HasAnchors []
  code : p.code.HasAnchors []

namespace Article

variable (a : Article) (ctx : ArticleContext)

/-- The anchors of a text. -/
def textAnchors (text : String) : List Anchor := anchorsOf (ctx.prose text) Markup.anchors

/-- The anchors of the text of an article. -/
def proseAnchors : List Anchor := textAnchors ctx a.contentMarkdown

/-- The anchors of an article that is shown by its text. -/
def plainAnchors : List Anchor :=
  a.proseAnchors ctx ++ a.payloads.geo.toList.flatMap GeoGuide.anchors ++
    a.payloads.cta.toList.map fun c => .link c.buttonUrl

/-- The anchors of a calculator and a text. -/
def calculatorAnchors : List Anchor :=
  a.payloads.calculator.toList.flatMap (·.anchors "") ++ a.proseAnchors ctx

/-- The anchors of a comparison and a text. -/
def comparisonAnchors : List Anchor :=
  (a.payloads.comparison.filter fun c => !c.options.isEmpty).toList.flatMap
    Comparison.tableAnchors ++ a.proseAnchors ctx

/-- The options that an article compares. -/
def options : List ComparisonOption := (a.payloads.comparison.map (·.options)).getD []

/-- The anchors of a review. -/
def reviewAnchors : List Anchor :=
  a.options.flatMap ComparisonOption.anchors ++ a.proseAnchors ctx

/-- The anchors of a contact form and a text. -/
def leadAnchors : List Anchor :=
  (a.payloads.leadForm.map LeadForm.secured).toList.flatMap LeadForm.anchors ++ a.proseAnchors ctx

/-- The anchors of the text of a section. -/
def sectionAnchors (s : Section) : List Anchor :=
  if s.body.isEmpty then [] else textAnchors ctx s.body

/-- The anchors of the step of a checklist. -/
def stepAnchors (index : Nat) (s : Section) : List Anchor :=
  .name ("checklist-step-" ++ toString index) :: sectionAnchors ctx s

/-- The anchors of a checklist. -/
def checklistAnchors : List Anchor :=
  let steps := sections a.contentMarkdown
  if steps.isEmpty then a.proseAnchors ctx
  else
    .name "checklist-progress" :: .name "checklist-completed-count" ::
      (steps.mapIdx (stepAnchors ctx)).flatten

/-- The anchors of a list of questions. -/
def questionsAnchors : List Anchor :=
  let items := sections a.contentMarkdown
  if items.isEmpty then a.proseAnchors ctx else items.flatMap fun s => textAnchors ctx s.body

/-- The anchors of a wizard and a text. -/
def wizardAnchors : List Anchor :=
  (a.payloads.wizard.filter fun w => !w.steps.isEmpty).toList.flatMap fun w =>
    w.anchors ++ a.proseAnchors ctx

/-- The anchors of an infographic. -/
def infographicAnchors : List Anchor :=
  let items := infographicItems a
  if items.isEmpty then a.proseAnchors ctx
  else .name "infographic-sort" :: items.map fun i => .name ("ig-" ++ i.id)

/-- The anchors of a map and a text. -/
def mapAnchors : List Anchor :=
  (a.payloads.geo.bind fun g => RegionMap.ofEntries? g.mapEntries g.fallback).toList.flatMap
    RegionMap.anchors ++ a.proseAnchors ctx

/-- **The anchors that an article contributes to its page**, by its type. -/
def contentAnchors : List Anchor :=
  match a.contentType with
  | .article | .healthDecision => a.plainAnchors ctx
  | .comparison => a.comparisonAnchors ctx
  | .calculator => a.calculatorAnchors ctx
  | .costGuide => a.proseAnchors ctx
  | .leadCapture => a.leadAnchors ctx
  | .checklist => a.checklistAnchors ctx
  | .faq => a.questionsAnchors ctx
  | .review => a.reviewAnchors ctx
  | .wizard | .configurator | .quiz | .survey | .assessment => a.wizardAnchors ctx
  | .infographic => a.infographicAnchors ctx
  | .map => a.mapAnchors ctx

end Article

namespace ArticleParts

variable {a : Article} {ctx : ArticleContext} {p : ArticleParts}

theorem textAnchors_of_prose_eq_ok {text : String} {m : Markup} (h : ctx.prose text = .ok m) :
    Article.textAnchors ctx text = m.anchors := by
  unfold Article.textAnchors
  rw [h]
  rfl

/-- The text of an article below a widget. -/
theorem anchors_lines_prose {widget text : Markup} {as : List Anchor} (hw : widget.HasAnchors as)
    (h : ArticleParts.text a ctx = .ok text) :
    (lines [widget, text]).anchors = as ++ a.proseAnchors ctx := by
  have hlines := anchors_lines_concat (List.forall_mem_singleton.mpr hw.1) text
  rw [List.flatMap_singleton, hw.2, ← textAnchors_of_prose_eq_ok h] at hlines
  exact hlines

theorem anchors_of_text_eq_ok {text : Markup} (h : ArticleParts.text a ctx = .ok text) :
    text.anchors = a.proseAnchors ctx := (textAnchors_of_prose_eq_ok h).symm

theorem contributes_of_plain_eq_ok {notice : Markup} (hnotice : notice.HasAnchors [])
    (h : plain a ctx notice = .ok p) : p.Contributes (a.plainAnchors ctx) := by
  obtain ⟨text, htext, h⟩ := exists_of_bind_eq_ok h
  cases Except.ok.inj h
  refine ⟨?_, by simp, by simp⟩
  have hregions : (whenSome a.payloads.geo GeoGuide.texts).HasAnchors
      (a.payloads.geo.toList.flatMap GeoGuide.anchors) := by simp
  have hcta : (whenSome a.payloads.cta CallToAction.markup).HasAnchors
      (a.payloads.cta.toList.map fun c => .link c.buttonUrl) := by
    simp [← List.map_eq_flatMap]
  -- The text need not be whole, so that what follows it must begin with a tag.
  have hregionsTag := isEmpty_or_beginsWithTag_whenSome (f := GeoGuide.texts)
    (fun _ => isEmpty_or_beginsWithTag_when
      (BeginsWithTag.joinWith_cons (beginsWithTag_startTag _ _) _ _) _) a.payloads.geo
  have hctaTag := isEmpty_or_beginsWithTag_whenSome
    (fun c => .inr (CallToAction.beginsWithTag_markup c)) a.payloads.cta
  dsimp only
  rw [hnotice.anchors_stack_cons, anchors_stack_cons text
      (List.forall_mem_cons.mpr ⟨hregions.1, List.forall_mem_singleton.mpr hcta.1⟩)
      (List.forall_mem_cons.mpr ⟨hregionsTag, List.forall_mem_singleton.mpr hctaTag⟩),
    List.flatMap_cons, List.flatMap_singleton, hregions.2, hcta.2, anchors_of_text_eq_ok htext,
    List.nil_append, ← List.append_assoc]
  rfl

theorem contributes_of_calculator_eq_ok (h : calculator a ctx = .ok p) :
    p.Contributes (a.calculatorAnchors ctx) := by
  obtain ⟨text, htext, h⟩ := exists_of_bind_eq_ok h
  cases Except.ok.inj h
  exact ⟨anchors_lines_prose (by simp) htext, by simp, by simp⟩

theorem contributes_of_comparison_eq_ok (h : comparison a ctx = .ok p) :
    p.Contributes (a.comparisonAnchors ctx) := by
  obtain ⟨table, htable, h⟩ := exists_of_bind_eq_ok h
  obtain ⟨text, htext, h⟩ := exists_of_bind_eq_ok h
  cases Except.ok.inj h
  refine ⟨?_, by simp, by simp⟩
  have hverdict : ∀ m ∈ (a.payloads.comparison.bind Comparison.verdictNote).toList,
      m.HasAnchors [] := by
    intro m hm
    obtain ⟨c, -, hc⟩ := Option.bind_eq_some_iff.mp (Option.mem_toList.mp hm)
    exact Comparison.hasAnchors_of_verdictNote_eq hc
  -- A table without options is not shown.
  have htables : (∀ m ∈ table.toList, m.IsWhole) ∧ table.toList.flatMap Markup.anchors =
      (a.payloads.comparison.filter fun c => !c.options.isEmpty).toList.flatMap
        Comparison.tableAnchors := by
    generalize (a.payloads.comparison.filter fun c => !c.options.isEmpty) = shown at htable
    cases shown with
    | none =>
      cases Except.ok.inj htable
      simp
    | some c =>
      obtain ⟨m, hm, htable⟩ := exists_of_bind_eq_ok htable
      cases Except.ok.inj htable
      simp [Comparison.hasAnchors_of_table_eq_ok hm]
  have hwidgets := List.forall_mem_append.mpr ⟨fun m hm => (hverdict m hm).1, htables.1⟩
  have hnone := List.flatMap_eq_nil_iff.mpr fun m hm => (hverdict m hm).2
  refine (anchors_lines_concat hwidgets text).trans ?_
  rw [List.flatMap_append, hnone, htables.2, anchors_of_text_eq_ok htext, List.nil_append]
  rfl

theorem hasAnchors_reviewVerdict (verdict : String) : (reviewVerdict verdict).HasAnchors [] := by
  unfold reviewVerdict
  simp (disch := simp (disch := simp)) [read_append]

theorem contributes_of_review_eq_ok (h : review a ctx = .ok p) :
    p.Contributes (a.reviewAnchors ctx) := by
  obtain ⟨cards, hcards, h⟩ := exists_of_bind_eq_ok h
  obtain ⟨text, htext, h⟩ := exists_of_bind_eq_ok h
  cases Except.ok.inj h
  refine ⟨?_, by simp, by simp⟩
  obtain ⟨hwhole, hread⟩ :=
    hasAnchors_of_mapM_eq_ok _ hcards fun _ _ => ComparisonOption.hasAnchors_of_card_eq_ok
  -- Without cards there is no section for them, and there are no anchors in it either.
  have hcardList : (∀ m ∈ (if cards.isEmpty then []
      else [el "section" [cls "review-cards"] (Markup.lines cards)]), m.IsWhole) ∧
      (if cards.isEmpty then []
        else [el "section" [cls "review-cards"] (Markup.lines cards)]).flatMap Markup.anchors =
          a.options.flatMap ComparisonOption.anchors := by
    have hsection : (el "section" [cls "review-cards"] (Markup.lines cards)).HasAnchors
        (cards.flatMap Markup.anchors) := by
      simp (disch := simp (disch := simp [eq_true hwhole]) [eq_true hwhole])
    rw [Article.options, ← hread]
    split
    · rename_i hempty
      rw [List.isEmpty_iff.mp hempty]
      exact ⟨fun _ h => absurd h List.not_mem_nil, rfl⟩
    · rw [List.flatMap_singleton]
      exact ⟨List.forall_mem_singleton.mpr hsection.1, hsection.2⟩
  have hverdict :
      ∀ m ∈ ((a.payloads.comparison.bind Comparison.verdict?).map reviewVerdict).toList,
        m.HasAnchors [] := by
    intro m hm
    obtain ⟨v, -, rfl⟩ := Option.map_eq_some_iff.mp (Option.mem_toList.mp hm)
    exact hasAnchors_reviewVerdict v
  have hnone := List.flatMap_eq_nil_iff.mpr fun m hm => (hverdict m hm).2
  refine (anchors_lines_concat (List.forall_mem_append.mpr
    ⟨hcardList.1, fun m hm => (hverdict m hm).1⟩) text).trans ?_
  rw [List.flatMap_append, hnone, hcardList.2, anchors_of_text_eq_ok htext, List.append_nil]
  rfl

theorem contributes_of_costGuide_eq_ok (h : costGuide a ctx = .ok p) :
    p.Contributes (a.proseAnchors ctx) := by
  obtain ⟨⟨spans, factors⟩, -, h⟩ := exists_of_bind_eq_ok h
  obtain ⟨text, htext, h⟩ := exists_of_bind_eq_ok h
  cases Except.ok.inj h
  refine ⟨?_, by simp, by simp⟩
  have hwidgets : ∀ m ∈ [costCards spans, factorGrid factors], m.IsWhole := by simp
  refine (anchors_lines_concat hwidgets text).trans ?_
  simp [anchors_of_text_eq_ok htext]

theorem contributes_of_leadCapture_eq_ok (h : leadCapture a ctx = .ok p) :
    p.Contributes (a.leadAnchors ctx) := by
  obtain ⟨text, htext, h⟩ := exists_of_bind_eq_ok h
  cases Except.ok.inj h
  exact ⟨anchors_lines_prose (by simp) htext, by simp (disch := simp (disch := simp)), by simp⟩

/-- What an article contributes that is shown by its text alone. -/
theorem contributes_of_text_eq_ok {text : Markup} (h : ArticleParts.text a ctx = .ok text)
    (subject : Subject) (extra : List (String × Json)) :
    Contributes { contents := text, subject, extra } (a.proseAnchors ctx) :=
  ⟨anchors_of_text_eq_ok h, by simp, by simp⟩

theorem mapIdx_map {α β γ : Type} (g : Nat → β → γ) (f : α → β) (xs : List α) :
    (xs.map f).mapIdx g = xs.mapIdx fun i x => g i (f x) :=
  List.ext_getElem (by simp) (by simp)

theorem anchors_of_sectionText_eq_ok {s : Section} {m : Markup} (h : sectionText ctx s = .ok m) :
    m.anchors = Article.sectionAnchors ctx s := by
  unfold sectionText at h
  unfold Article.sectionAnchors
  split at h
  · rename_i hempty
    cases Except.ok.inj h
    rw [if_pos hempty]
    exact read_empty
  · rename_i hempty
    rw [if_neg hempty]
    exact (textAnchors_of_prose_eq_ok h).symm

theorem contributes_of_checklist_eq_ok (h : checklist a ctx = .ok p) :
    p.Contributes (a.checklistAnchors ctx) := by
  unfold checklist at h
  unfold Article.checklistAnchors
  dsimp only at h ⊢
  generalize sections a.contentMarkdown = steps at h ⊢
  split at h <;> rename_i hempty
  · obtain ⟨text, htext, h⟩ := exists_of_bind_eq_ok h
    cases Except.ok.inj h
    rw [if_pos hempty]
    exact contributes_of_text_eq_ok htext _ _
  · obtain ⟨texts, htexts, h⟩ := exists_of_bind_eq_ok h
    cases Except.ok.inj h
    rw [if_neg hempty]
    refine ⟨?_, by simp, by simp⟩
    obtain ⟨hwhole, hread⟩ := hasAnchors_mapIdx
      (fun i (q : Section × Markup) =>
        .name ("checklist-step-" ++ toString i) :: q.2.anchors)
      (fun i q => hasAnchors_checklistItem i q.1.heading q.2) (steps.zip texts)
    have htextAnchors : texts.map Markup.anchors = steps.map (Article.sectionAnchors ctx) :=
      map_eq_of_mapM_eq_ok (fun _ _ => anchors_of_sectionText_eq_ok) htexts
    have hlength : texts.length = steps.length := by
      simpa using congrArg List.length htextAnchors
    refine (hasAnchors_checklist hwhole).2.trans ?_
    -- The steps and their texts are as many, so that each step has the anchors of its own text.
    have hitems : (steps.zip texts).mapIdx (fun i q =>
        Anchor.name ("checklist-step-" ++ toString i) :: q.2.anchors) =
          steps.mapIdx (Article.stepAnchors ctx) := by
      have htexts := congrArg (List.mapIdx fun i as =>
        Anchor.name ("checklist-step-" ++ toString i) :: as) htextAnchors
      rw [← List.map_snd_zip (Nat.le_of_eq hlength), List.map_map, mapIdx_map,
        mapIdx_map] at htexts
      exact htexts
    rw [hread, hitems]

theorem contributes_of_questions_eq_ok (h : questions a ctx = .ok p) :
    p.Contributes (a.questionsAnchors ctx) := by
  obtain ⟨answers, hanswers, h⟩ := exists_of_bind_eq_ok h
  unfold Article.questionsAnchors
  dsimp only at h ⊢
  obtain ⟨hwhole, hread⟩ := hasAnchors_of_mapM_eq_ok
    (fun s : Section => Article.textAnchors ctx s.body) hanswers fun s m hm => by
      obtain ⟨text, htext, hm⟩ := exists_of_bind_eq_ok hm
      cases Except.ok.inj hm
      rw [textAnchors_of_prose_eq_ok htext]
      simp
  split at h <;> rename_i hempty
  · obtain ⟨text, htext, h⟩ := exists_of_bind_eq_ok h
    cases Except.ok.inj h
    rw [if_pos hempty]
    exact contributes_of_text_eq_ok htext _ _
  · cases Except.ok.inj h
    rw [if_neg hempty, ← hread]
    refine ⟨?_, by simp, by simp⟩
    simp (disch := simp [eq_true hwhole])

theorem contributes_of_wizard_eq_ok {mode : Wizard.Mode} (h : wizard a ctx mode = .ok p) :
    p.Contributes (a.wizardAnchors ctx) := by
  unfold wizard at h
  unfold Article.wizardAnchors
  cases hw : a.payloads.wizard.filter fun w => !w.steps.isEmpty with
  | none =>
    rw [hw] at h
    cases Except.ok.inj h
    exact ⟨by simp, by simp, by simp⟩
  | some w =>
    rw [hw] at h
    obtain ⟨text, htext, h⟩ := exists_of_bind_eq_ok h
    cases Except.ok.inj h
    refine ⟨?_, by simp, by simp⟩
    refine (anchors_lines_prose (Wizard.hasAnchors_panels ..) htext).trans ?_
    exact (List.append_nil _).symm

theorem contributes_of_infographic_eq_ok (h : infographic a ctx = .ok p) :
    p.Contributes (a.infographicAnchors ctx) := by
  unfold infographic at h
  unfold Article.infographicAnchors
  dsimp only at h ⊢
  split at h <;> rename_i hempty
  · obtain ⟨text, htext, h⟩ := exists_of_bind_eq_ok h
    cases Except.ok.inj h
    rw [if_pos hempty]
    exact contributes_of_text_eq_ok htext _ _
  · cases Except.ok.inj h
    rw [if_neg hempty]
    exact ⟨(hasAnchors_infographic _).2, by simp, by simp⟩

theorem contributes_of_map_eq_ok (h : map a ctx = .ok p) : p.Contributes (a.mapAnchors ctx) := by
  unfold map at h
  unfold Article.mapAnchors
  dsimp only at h
  split at h
  · rename_i hmap
    obtain ⟨text, htext, h⟩ := exists_of_bind_eq_ok h
    cases Except.ok.inj h
    rw [hmap, Option.toList_none, List.flatMap_nil, List.nil_append]
    exact contributes_of_text_eq_ok htext _ _
  · rename_i m hmap
    obtain ⟨text, htext, h⟩ := exists_of_bind_eq_ok h
    cases Except.ok.inj h
    rw [hmap]
    have hlines := anchors_lines_prose (RegionMap.hasAnchors_markup m) htext
    rw [Option.toList_some, List.flatMap_singleton]
    exact ⟨hlines, by simp, by simp⟩

/-- **The anchors that an article contributes to its page.** -/
theorem contributes_of_ofArticle_eq_ok (h : ofArticle a ctx = .ok p) :
    p.Contributes (a.contentAnchors ctx) := by
  unfold ofArticle at h
  unfold Article.contentAnchors
  cases htype : a.contentType <;> rw [htype] at h <;> dsimp only at h ⊢
  case article | healthDecision => exact contributes_of_plain_eq_ok (by simp) h
  case comparison => exact contributes_of_comparison_eq_ok h
  case calculator => exact contributes_of_calculator_eq_ok h
  case costGuide => exact contributes_of_costGuide_eq_ok h
  case leadCapture => exact contributes_of_leadCapture_eq_ok h
  case checklist => exact contributes_of_checklist_eq_ok h
  case faq => exact contributes_of_questions_eq_ok h
  case review => exact contributes_of_review_eq_ok h
  case infographic => exact contributes_of_infographic_eq_ok h
  case map => exact contributes_of_map_eq_ok h
  all_goals exact contributes_of_wizard_eq_ok h

end ArticleParts

/-! ### Pages -/

namespace PageShell

theorem hasAnchors_headLines (head : PageHead) (siteTitle : String) :
    (Markup.rows (headStart head.description ++
      [.indent 2 <| el "title" [] (esc (head.title ++ " | " ++ siteTitle)),
       .indent 2 <| stylesheetLink "/styles.css", .indent 2 <| iconLink])).HasAnchors
        [.link "/styles.css", .link "/favicon.svg"] := by
  rw [Markup.rows_append]
  refine (hasAnchors_headStart head.description).append ?_
  simp (disch := simp (disch := simp))

theorem hasAnchors_headFragments (s : PageShell) {extra : Markup} {as : List Anchor}
    (hextra : extra.HasAnchors as) (htag : extra.BeginsWithTag) :
    (s.headFragments extra).HasAnchors (s.headScripts.anchors ++ as) := by
  have hbreak : (html "\n").HasAnchors [] := by simp
  have hline := hextra.append hbreak
  rw [List.append_nil] at hline
  have hall := hline.behind_html (htag.append _) (s := "\n  ") (by simp) (.indent 2 s.headScripts)
  have hrows : s.headFragments extra =
      .indent 2 s.headScripts ++ html "\n  " ++ (extra ++ html "\n") := by
    have hnil : (Markup.concat []).text = "" := rfl
    refine eq_of_toList_eq ?_
    unfold headFragments Markup.rows Markup.indent
    simp [concat_cons, toList_append, html, hnil]
  have hscripts : (Markup.indent 2 s.headScripts).anchors = s.headScripts.anchors :=
    read_indent 2 s.headScripts
  rwa [hrows, ← hscripts]

/-- The anchors of the contents of a page and of the column beside them. -/
theorem hasAnchors_columns (f : Frame) (contents : Markup) :
    ((build f).columns contents).HasAnchors
      (contents.anchors ++ if f.layout.hasSidebar then f.sidebarAnchors else []) := by
  have hsidebar := f.hasAnchors_sidebar
  unfold columns build
  dsimp only
  cases f.layout.hasSidebar <;>
    simp (disch := simp (disch := simp) [hsidebar]) [read_append, hsidebar, Markup.when]

/-- **The anchors of a page** are those of its frame, of what it adds to the head, of its contents,
and of the fragments that are put into it. -/
theorem anchors_wrap (f : Frame) (head : PageHead) (contents : Markup) {as : List Anchor}
    (hextra : head.extra.HasAnchors as) (htag : head.extra.BeginsWithTag) :
    ((build f).wrap head contents).anchors =
      [.link "/styles.css", .link "/favicon.svg"] ++ ((build f).headScripts.anchors ++ as) ++
        (f.headerAnchors ++ (contents.anchors ++
          (if f.layout.hasSidebar then f.sidebarAnchors else []) ++ f.footerAnchors)) ++
        (build f).bodyScripts.anchors := by
  have hend : (Markup.rows [endTag "body", endTag "html"]).HasAnchors [] := by
    simp (disch := simp (disch := simp))
  have hendTag (name : String) (ms : List Markup) :
      (Markup.rows (endTag name :: ms)).BeginsWithTag :=
    (Markup.beginsWithTag_endTag name).rows_cons ms
  have hbody : (Markup.rows [endTag "head", startTag "body" [], (build f).header,
      (build f).columns contents, (build f).footer]).HasAnchors (f.headerAnchors ++
        (contents.anchors ++ (if f.layout.hasSidebar then f.sidebarAnchors else []) ++
          f.footerAnchors)) := by
    have hheader : (build f).header.HasAnchors f.headerAnchors := f.hasAnchors_header
    have hfooter : (build f).footer.HasAnchors f.footerAnchors := f.hasAnchors_footer
    have hcolumns := hasAnchors_columns f contents
    simp (disch := simp (disch := simp) [hheader, hfooter, hcolumns]) [hheader, hfooter, hcolumns]
  rw [wrap_eq, (hend.behind (hendTag "body" _) _).2, List.append_nil, bodyFragment,
    (((hasAnchors_headLines head _).append (hasAnchors_headFragments _ hextra htag)).append
      hbody).anchors_append, anchors_rows_singleton]

end PageShell

@[simp]
theorem hasAnchors_shareTags (a : Article) (domain : String) :
    (shareTags a domain).HasAnchors [.link (articleUrl domain a.slug)] := by
  unfold shareTags timeTags breadcrumbData
  dsimp only
  cases a.times.published <;> cases a.times.updated <;>
    simp (disch := simp (disch := simp))

theorem beginsWithTag_shareTags (a : Article) (domain : String) :
    (shareTags a domain).BeginsWithTag := by
  unfold shareTags
  exact (beginsWithTag_startTag _ _).joinWith_cons _ _

theorem ArticleParts.Contributes.anchors_body {p : ArticleParts} {as : List Anchor}
    (h : p.Contributes as) (a : Article) (ctx : ArticleContext) :
    (p.body a ctx).anchors =
      as ++ ctx.datasets.flatMap Dataset.anchors ++ citationAnchors ctx.citations := by
  have hbefore : ∀ m ∈ [startTag "article" [], el "h1" [] (esc a.title)], m.HasAnchors [] := by
    simp (disch := simp (disch := simp))
  have hnone := List.flatMap_eq_nil_iff.mpr fun m hm => (hbefore m hm).2
  have harticle : (Markup.lines [startTag "article" [], el "h1" [] (esc a.title), p.contents,
      endTag "article"]).HasAnchors as := by
    have hwhole m hm := (hbefore m hm).1
    refine ⟨(lines_endTag_spec hwhole p.contents rfl).1,
      (read_lines_endTag hwhole p.contents rfl).trans ?_⟩
    rw [hnone, List.nil_append]
    exact h.contents
  have hdata : (articleData a ctx.domain p.subject p.extra).HasAnchors [] :=
    Block.hasAnchors_linkedData _
  obtain hnotice := h.notice
  obtain hcode := h.code
  unfold ArticleParts.body
  simp (disch := simp (disch := simp) [harticle, hdata, hnotice, hcode])
    [read_append, harticle, hdata, hnotice, hcode]

/-- **The anchors of the page of an article.** -/
theorem anchors_articlePage {a : Article} {ctx : ArticleContext} {f : Frame} {page : Markup}
    (hshell : ctx.shell = some (.build f)) (hpage : articlePage a ctx = .ok page) :
    page.anchors =
      [.link "/styles.css", .link "/favicon.svg"] ++
        ((PageShell.build f).headScripts.anchors ++ [.link (articleUrl ctx.domain a.slug)]) ++
        (f.headerAnchors ++
          (a.contentAnchors ctx ++ ctx.datasets.flatMap Dataset.anchors ++
            citationAnchors ctx.citations ++
            (if f.layout.hasSidebar then f.sidebarAnchors else []) ++ f.footerAnchors)) ++
        (PageShell.build f).bodyScripts.anchors := by
  unfold articlePage at hpage
  obtain ⟨parts, hparts, hpage⟩ := exists_of_bind_eq_ok hpage
  unfold ArticleParts.page at hpage
  rw [hshell] at hpage
  cases Except.ok.inj hpage
  let head : PageShell.PageHead :=
    { title := a.title, description := a.description, extra := shareTags a ctx.domain }
  have hwrap := PageShell.anchors_wrap f head (parts.body a ctx) (hasAnchors_shareTags a ctx.domain)
    (beginsWithTag_shareTags a ctx.domain)
  rwa [(ArticleParts.contributes_of_ofArticle_eq_ok hparts).anchors_body a ctx] at hwrap

end StaticSite
