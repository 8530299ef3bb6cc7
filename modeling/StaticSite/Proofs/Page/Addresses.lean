import StaticSite.Proofs.Page.Anchors
import StaticSite.Proofs.Page.ArticleAnchors
import StaticSite.Proofs.Site.Files

/-!
# The addresses that pages link to

An address is harmless if it names no scheme or one that is allowed in texts (`Link.IsHarmless`): a
link to any other may run a script. Texts are freed of such links. What a record gives as an address
is linked to as it is, so that the links of a block or of the page of an article are harmless
exactly if the addresses in its records are, and those in the texts and fragments that it shows
(`links_harmless_iff`).
-/

namespace StaticSite

/-! ### Harmless addresses -/

namespace Link

/-- The scheme that an address names, in small letters. It is empty if the address names none. -/
def scheme (address : String) : String :=
  String.ofList (splitScheme (dropIgnored address.toList)).1

/-- **An address is harmless**: it names no scheme, or one of those that texts may name. -/
def IsHarmless (address : String) : Prop :=
  scheme address = "" ∨ scheme address ∈ Html.allowedSchemes

instance (address : String) : Decidable (IsHarmless address) :=
  inferInstanceAs (Decidable (_ ∨ _))

/-- An address on the same host is harmless. -/
theorem isHarmless_of_path {address : String} {cs : List Char} (h : address.toList = '/' :: cs) :
    IsHarmless address := by
  refine .inl ?_
  have hkept : dropIgnored ('/' :: cs) =
      '/' :: cs.filter fun c => c != '\t' && c != '\r' && c != '\n' := rfl
  have hsplit (rest : List Char) : Text.splitAt? [':'] ('/' :: rest) =
      (Text.splitAt? [':'] rest).map fun r => ('/' :: r.1, r.2) := rfl
  unfold scheme splitScheme splitColon?
  rw [h, hkept, hsplit]
  -- A scheme begins with a letter.
  cases Text.splitAt? [':'] (cs.filter fun c => c != '\t' && c != '\r' && c != '\n') <;> rfl

/-- A secure address is harmless, whatever host and path it names. -/
theorem isHarmless_https (rest : String) : IsHarmless ("https:" ++ rest) := by
  have hscheme : scheme ("https:" ++ rest) = "https" := by
    unfold scheme
    rw [String.toList_append]
    rfl
  refine .inr ?_
  rw [hscheme]
  decide

end Link

/-! ### The addresses of widgets -/

/-- The address in a form. -/
def LeadForm.addresses (f : LeadForm) : List String :=
  if f.fields.isEmpty then [] else f.privacyAddress?.toList

@[simp]
theorem LeadForm.linksOf_anchors (f : LeadForm) : linksOf f.anchors = f.addresses := by
  unfold LeadForm.anchors LeadForm.addresses
  split
  · rfl
  · cases f.consentText.isEmpty <;> simp

/-- The addresses of the options of a comparison. -/
def optionAddresses (options : List ComparisonOption) : List String :=
  options.flatMap (·.url?.toList)

@[simp]
theorem ComparisonOption.linksOf_anchors (o : ComparisonOption) :
    linksOf o.anchors = o.url?.toList := linksOf_map_of_strings _

@[simp]
theorem Calculator.linksOf_anchors (c : Calculator) (marker : String) :
    linksOf (c.anchors marker) = [] := by
  have hinput (i : CalculatorInput) : linksOf (i.anchors marker) = [] := by
    unfold CalculatorInput.anchors
    split <;> rfl
  unfold Calculator.anchors
  split
  · rfl
  · simp [hinput]

@[simp]
theorem Wizard.linksOf_anchors (w : Wizard) : linksOf w.anchors = [] := by
  have hfield (f : WizardField) : linksOf f.anchors = [] := by
    unfold WizardField.anchors
    cases f.kind <;> rfl
  unfold Wizard.anchors contactAnchors
  simp [hfield]

/-! ### The addresses of blocks -/

namespace Block

/-- The address of a record that always links somewhere. -/
def recordAddress (r : Fields) : String := (r.text? "href").getD "#"

/-- The address of a call to action, if its label is given as well. -/
def givenAddress? (content : Fields) : Option String :=
  (content.text? "ctaUrl").filter fun _ => (content.text? "ctaText").isSome

@[simp]
theorem linksOf_map_recordAnchor (rs : List Fields) :
    linksOf (rs.map recordAnchor) = rs.map recordAddress := linksOf_map_link rs recordAddress

@[simp]
theorem linksOf_givenAnchors (content : Fields) :
    linksOf (givenAnchors content) = (givenAddress? content).toList := by
  unfold givenAnchors givenAddress?
  cases content.text? "ctaUrl" <;> cases content.text? "ctaText" <;> rfl

@[simp]
theorem linksOf_productAnchors (product : Fields) :
    linksOf (productAnchors product) = (product.text? "url").toList := by
  unfold productAnchors
  cases product.text? "url" <;> rfl

/-- The value of a payload, or nothing of it. -/
def addressesOf {ε α : Type} (x : Except ε α) (addresses : α → List String) : List String :=
  match x with
  | .ok a => addresses a
  | .error _ => []

end Block

/-- **The addresses in the record of a block**, by the type of the block. -/
def BlockKind.payloadAddresses (b : Block) : BlockKind → List String
  | .ctaBanner | .scrollCta => (Block.Call.ofBlock? b).toList.map (·.url)
  | .citations =>
    (b.content.recordsWith "sources" "title").flatMap fun s => (s.text? "url").toList
  | .comparisonTable => Block.addressesOf (Block.payload b Comparison.read) fun c =>
    if c.options.isEmpty || c.columns.isEmpty then [] else optionAddresses c.options
  | .footer =>
    if b.variantOr "minimal" == "multi-column" then
      (b.content.records "columns").flatMap fun column =>
        (column.records "links").map Block.recordAddress
    else []
  | .header => (b.content.records "navLinks").map Block.recordAddress
  | .hero => (Block.givenAddress? b.content).toList
  | .latestArticles => (b.content.recordsWith "articles" "title").map Block.recordAddress
  | .leadForm =>
    Block.addressesOf ((b.content.records "fields").mapM fun f =>
      BlockError.ofChecked (LeadField.read (.obj f))) fun fields =>
        (Block.leadFormOf b fields).addresses
  | .pdfDownload => (Block.documentUrl? b).toList
  | .pricingTable =>
    (b.content.recordsWith "plans" "name").flatMap fun p => (Block.givenAddress? p).toList
  | .prosConsCard =>
    if (b.content.text? "name").isSome then (b.content.text? "url").toList else []
  | .rankingList =>
    (b.content.recordsWith "items" "name").flatMap fun e => (e.text? "url").toList
  | .resourceGrid => (b.content.recordsWith "items" "title").map Block.recordAddress
  | .versusCard =>
    let first := b.content.object "itemA"
    let second := b.content.object "itemB"
    if first.isEmpty || second.isEmpty then []
    else (first.text? "url").toList ++ (second.text? "url").toList
  | _ => []

/-- The addresses in the texts of a block, which are freed of others before they are shown. -/
def BlockKind.textAddresses (b : Block) (ctx : BlockContext) : BlockKind → List String
  | .articleBody => linksOf (b.articleAnchors ctx)
  | .checklist | .stepByStep =>
    (b.content.recordsWith "steps" "heading").flatMap fun s =>
      (Html.sanitize (s.text "body")).addresses
  | .faq =>
    (b.content.recordsWith "items" "question").flatMap fun e =>
      (Html.sanitize (e.text "answer")).addresses
  | .geoContent => linksOf b.geoContentAnchors
  | .interactiveMap => linksOf b.interactiveMapAnchors
  | .sidebar =>
    (b.content.records "sections").flatMap fun s => (Html.sanitize (s.text "html")).addresses
  | _ => []

/-- The links that every block of a type has. -/
def BlockKind.fixedAddresses : BlockKind → List String
  | .header => ["/"]
  | _ => []

theorem Block.linksOf_checklistAnchors (b : Block) :
    linksOf b.checklistAnchors =
      [] ++ [] ++ (b.content.recordsWith "steps" "heading").flatMap fun s =>
        (Html.sanitize (s.text "body")).addresses := by
  unfold checklistAnchors
  dsimp only
  generalize b.content.recordsWith "steps" "heading" = steps
  have hsteps (interactive : Bool) (listId : String) :
      (steps.mapIdx (stepAnchors interactive listId)).flatMap linksOf =
        steps.flatMap fun s => (Html.sanitize (s.text "body")).addresses := by
    refine flatMap_mapIdx (fun i s => ?_) steps
    unfold stepAnchors Markup.addresses
    cases interactive <;> simp
  cases steps with
  | nil => rfl
  | cons s ss => simpa using hsteps _ _

/-- **The links of a block** are the addresses in its record and in its texts. -/
theorem BlockKind.linksOf_anchors (kind : BlockKind) (b : Block) (ctx : BlockContext) :
    linksOf (kind.anchors b ctx) =
      kind.fixedAddresses ++ kind.payloadAddresses b ++ kind.textAddresses b ctx := by
  unfold BlockKind.anchors payloadAddresses textAddresses fixedAddresses
  -- Each kind is opened by itself, as far as its links depend on the record.
  cases kind <;> dsimp only
  case citations => simp
  case articleBody => simp
  case authorBio => rfl
  case ctaBanner =>
    unfold Block.ctaBannerAnchors Block.scrollCtaAnchors
    split <;> cases Block.Call.ofBlock? b <;> simp
  case scrollCta =>
    unfold Block.scrollCtaAnchors
    cases Block.Call.ofBlock? b <;> simp
  case comparisonTable =>
    unfold Block.comparisonTableAnchors
    cases Block.payload b Comparison.read with
    | error e => rfl
    | ok c =>
      dsimp only [anchorsOf, Block.addressesOf]
      split <;> simp [Comparison.tableAnchors, optionAddresses]
  case footer =>
    unfold Block.footerAnchors
    split <;> simp
  case header => simp [Block.headerAnchors]
  case hero => simp
  case latestArticles => simp
  case leadForm =>
    unfold Block.leadFormAnchors
    generalize (b.content.records "fields").mapM (fun f =>
      BlockError.ofChecked (LeadField.read (.obj f))) = fields
    cases fields with
    | error e => rfl
    | ok fields => simp [anchorsOf, Block.addressesOf]
  case checklist | stepByStep => exact Block.linksOf_checklistAnchors b
  case dataTable =>
    unfold Block.dataTableAnchors
    split <;> simp
  case faq => simp [Block.faqAnchors, Markup.addresses]
  case geoContent => simp
  case interactiveMap => simp
  case pdfDownload =>
    unfold Block.pdfDownloadAnchors
    cases Block.documentUrl? b with
    | none => rfl
    | some url => cases b.config.flag "gated" false <;> rfl
  case pricingTable => simp
  case prosConsCard =>
    unfold Block.prosConsAnchors
    split <;> simp
  case quoteCalculator =>
    unfold Block.quoteCalculatorAnchors
    cases Block.payload b Calculator.read with
    | error e => rfl
    | ok c => simp [anchorsOf]
  case rankingList => simp
  case resourceGrid => simp
  case sidebar => simp [Block.sidebarAnchors, Markup.addresses]
  case statGrid =>
    unfold Block.statGridAnchors
    split <;> simp
  case versusCard =>
    unfold Block.versusAnchors
    dsimp only
    split <;> simp
  case wizard =>
    unfold Block.wizardAnchors
    cases Block.payload b Wizard.read with
    | error e => rfl
    | ok w =>
      dsimp only [anchorsOf]
      split <;> simp
  all_goals rfl

namespace Block

variable (b : Block) (ctx : BlockContext)

/-- **The addresses in the record of a block that is shown.** -/
def payloadAddresses : List String :=
  match BlockKind.named? b.type with
  | none => []
  | some kind => addressesOf (kind.render b ctx) fun _ => kind.payloadAddresses b

/-- The addresses in the texts of a block that is shown. -/
def textAddresses : List String :=
  match BlockKind.named? b.type with
  | none => []
  | some kind => addressesOf (kind.render b ctx) fun _ => kind.textAddresses b ctx

open Link (IsHarmless)

/-- The links of a block are harmless if the addresses in it are. -/
theorem forall_mem_addresses_iff : (∀ link ∈ (b.markup ctx).addresses, IsHarmless link) ↔
    ∀ link ∈ b.payloadAddresses ctx ++ b.textAddresses ctx, IsHarmless link := by
  -- The addresses that a kind of block links by itself are paths of the site.
  have hfixed (kind : BlockKind) : ∀ link ∈ kind.fixedAddresses, IsHarmless link := by
    cases kind <;> decide
  unfold Markup.addresses
  rw [(hasAnchors_markup b ctx).2]
  unfold Block.anchors payloadAddresses textAddresses
  cases BlockKind.named? b.type with
  | none => rfl
  | some kind =>
    dsimp only
    cases kind.render b ctx with
    | error e => rfl
    | ok m =>
      dsimp only [anchorsOf, addressesOf]
      rw [kind.linksOf_anchors, List.append_assoc, List.forall_mem_append]
      exact and_iff_right (hfixed kind)

end Block

/-! ### The addresses of articles -/

namespace Article

variable (a : Article) (ctx : ArticleContext)

/-- **The addresses in the record of an article**, by its type. -/
def payloadAddresses : List String :=
  match a.contentType with
  | .article | .healthDecision => a.payloads.cta.toList.map (·.buttonUrl)
  | .comparison | .review => optionAddresses a.options
  | .leadCapture => (a.payloads.leadForm.map LeadForm.secured).toList.flatMap LeadForm.addresses
  | _ => []

/-- The addresses in the texts of an article, which are freed of others before they are shown. -/
def textAddresses : List String :=
  match a.contentType with
  | .article | .healthDecision =>
    linksOf (a.proseAnchors ctx) ++ linksOf (a.payloads.geo.toList.flatMap GeoGuide.anchors)
  | .comparison | .calculator | .costGuide | .leadCapture | .review => linksOf (a.proseAnchors ctx)
  | _ => linksOf (a.contentAnchors ctx)

/-- The table of a comparison links to its options, if there are any. -/
theorem linksOf_comparisonAnchors : linksOf (a.comparisonAnchors ctx) =
    optionAddresses a.options ++ linksOf (a.proseAnchors ctx) := by
  unfold comparisonAnchors options
  rw [linksOf_append]
  congr 1
  cases a.payloads.comparison with
  | none => rfl
  | some c =>
    rw [Option.map_some, Option.getD_some, Option.filter_some]
    split
    · simp [Comparison.tableAnchors, optionAddresses]
    · rename_i hempty
      rw [Bool.not_eq_true', Bool.not_eq_false, List.isEmpty_iff] at hempty
      rw [hempty]
      rfl

theorem mem_linksOf_contentAnchors {link : String} :
    link ∈ linksOf (a.contentAnchors ctx) ↔
      link ∈ a.payloadAddresses ∨ link ∈ a.textAddresses ctx := by
  unfold payloadAddresses textAddresses contentAnchors
  cases a.contentType <;> dsimp only
  -- The types with addresses in their records.
  case article | healthDecision =>
    unfold plainAnchors
    rw [linksOf_append, linksOf_append, linksOf_map_link, List.mem_append, or_comm]
  case comparison => rw [linksOf_comparisonAnchors, List.mem_append]
  case review =>
    unfold reviewAnchors
    rw [linksOf_append, List.mem_append]
    simp [optionAddresses]
  case leadCapture =>
    unfold leadAnchors
    rw [linksOf_append, List.mem_append]
    simp
  case calculator =>
    unfold calculatorAnchors
    simp
  all_goals rw [List.mem_nil_iff, false_or]

end Article

/-- The addresses of the sources of an article. -/
def ArticleContext.sourceAddresses (ctx : ArticleContext) : List String :=
  ctx.datasets.flatMap (fun d => (present? d.sourceUrl).toList) ++
    ctx.citations.map (·.sourceUrl)

/-- The addresses of the articles that the frame of a page links to. -/
def Frame.articleAddresses (f : Frame) : List String :=
  if f.layout.hasSidebar then (f.links.take maxSidebarLinks).map (·.href) else []

/-- The addresses in the fragments of a provider of advertisements. -/
def Frame.fragmentAddresses (f : Frame) : List String :=
  (PageShell.build f).headScripts.addresses ++ (PageShell.build f).bodyScripts.addresses

section

open Link (IsHarmless isHarmless_of_path isHarmless_https)

theorem isHarmless_trustLinks (settings : Option Disclosure) :
    ∀ link ∈ (trustLinks settings).map (·.href), IsHarmless link := by
  have hlink (label href : String) (text : Option String) (h : IsHarmless href) :
      ∀ link ∈ (if (present? text).isSome then [NavLink.mk label href] else []).map (·.href),
        IsHarmless link := by
    split
    · exact List.forall_mem_singleton.mpr h
    · exact fun _ h => absurd h List.not_mem_nil
  cases settings with
  | none => exact fun _ h => absurd h List.not_mem_nil
  | some d =>
    unfold trustLinks
    rw [List.map_append, List.map_append, List.forall_mem_append, List.forall_mem_append]
    exact ⟨⟨hlink _ _ _ (isHarmless_of_path rfl), hlink _ _ _ (isHarmless_of_path rfl)⟩,
      hlink _ _ _ (isHarmless_of_path rfl)⟩

namespace Frame

variable (f : Frame)

theorem isHarmless_headerAnchors : ∀ link ∈ linksOf f.headerAnchors, IsHarmless link := by
  unfold headerAnchors NavLink.anchors
  rw [linksOf_link_cons, List.forall_mem_cons]
  refine ⟨isHarmless_of_path rfl, ?_⟩
  split
  · exact fun _ h => absurd h List.not_mem_nil
  · rw [linksOf_map_link, List.map_cons, List.forall_mem_cons]
    exact ⟨isHarmless_of_path rfl, isHarmless_trustLinks f.settings⟩

theorem isHarmless_footerAnchors : ∀ link ∈ linksOf f.footerAnchors, IsHarmless link := by
  unfold footerAnchors columnAnchors NavLink.anchors
  rw [linksOf_append, linksOf_link_cons, linksOf_link_cons, linksOf_map_link,
    List.forall_mem_append, List.forall_mem_cons, List.forall_mem_cons]
  refine ⟨?_, isHarmless_of_path rfl, isHarmless_of_path rfl, isHarmless_trustLinks f.settings⟩
  split
  · exact List.forall_mem_singleton.mpr (isHarmless_of_path rfl)
  · exact fun _ h => absurd h List.not_mem_nil

theorem linksOf_sidebarAnchors :
    linksOf (if f.layout.hasSidebar then f.sidebarAnchors else []) = f.articleAddresses := by
  unfold articleAddresses sidebarAnchors NavLink.anchors
  split
  · exact linksOf_map_link _ _
  · rfl

end Frame

/-- The addresses of the sources of an article, in whatever order they are shown. -/
theorem ArticleContext.forall_mem_sources_iff (ctx : ArticleContext) {P : String → Prop} :
    (∀ link ∈ linksOf (ctx.datasets.flatMap Dataset.anchors ++ citationAnchors ctx.citations),
      P link) ↔ ∀ link ∈ ctx.sourceAddresses, P link := by
  have hcited : ∀ link, link ∈ linksOf (citationAnchors ctx.citations) ↔
      link ∈ ctx.citations.map (·.sourceUrl) := by
    intro link
    unfold citationAnchors
    rw [linksOf_map_link]
    exact ((List.mergeSort_perm _ _).map _).mem_iff
  have hdatasets : linksOf (ctx.datasets.flatMap Dataset.anchors) =
      ctx.datasets.flatMap fun d => (present? d.sourceUrl).toList := by
    simp [Dataset.anchors]
  unfold sourceAddresses
  rw [linksOf_append, hdatasets]
  simp only [List.mem_append, hcited]

/-- The links of the page of an article are harmless if the addresses in it are. -/
theorem forall_mem_addresses_articlePage_iff {a : Article} {ctx : ArticleContext} {f : Frame}
    {page : Markup} (hshell : ctx.shell = some (.build f)) (hpage : articlePage a ctx = .ok page) :
    (∀ link ∈ page.addresses, IsHarmless link) ↔
      ∀ link ∈ a.payloadAddresses ++ ctx.sourceAddresses ++ f.articleAddresses ++
        a.textAddresses ctx ++ f.fragmentAddresses, IsHarmless link := by
  have hcontents : (∀ link ∈ linksOf (a.contentAnchors ctx), IsHarmless link) ↔
      (∀ link ∈ a.payloadAddresses, IsHarmless link) ∧
        ∀ link ∈ a.textAddresses ctx, IsHarmless link := by
    simp only [a.mem_linksOf_contentAnchors ctx, or_imp, forall_and]
  have hfiles : ∀ link ∈ linksOf [.link "/styles.css", .link "/favicon.svg"], IsHarmless link :=
    List.forall_mem_cons.mpr
      ⟨isHarmless_of_path rfl, List.forall_mem_singleton.mpr (isHarmless_of_path rfl)⟩
  have hcanonical :
      ∀ link ∈ linksOf [.link (articleUrl ctx.domain a.slug)], IsHarmless link := by
    have hurl :
        articleUrl ctx.domain a.slug = "https:" ++ ("//" ++ ctx.domain ++ "/" ++ a.slug) := by
      simp [articleUrl, ← String.append_assoc]
    exact List.forall_mem_singleton.mpr (hurl ▸ isHarmless_https _)
  -- What the page links by itself is harmless, which leaves the addresses of the record, of the
  -- sources, of the sidebar, of the texts and of the fragments.
  have hheader := f.isHarmless_headerAnchors
  have hfooter := f.isHarmless_footerAnchors
  have hsources := ctx.forall_mem_sources_iff (P := IsHarmless)
  unfold Frame.fragmentAddresses Markup.addresses
  rw [anchors_articlePage hshell hpage]
  rw [linksOf_append, List.forall_mem_append] at hsources
  simp only [linksOf_append, List.forall_mem_append, f.linksOf_sidebarAnchors, hcontents,
    eq_true hfiles, eq_true hcanonical, eq_true hheader, eq_true hfooter, true_and, ← hsources,
    and_assoc, and_comm, and_left_comm]

/-- **The links of blocks and of the pages of articles are harmless exactly if** the addresses are
in their records and among the sources, those of the articles that the frame links to, and those in
the texts and fragments that are shown. -/
theorem links_harmless_iff (b : Block) (place : BlockContext) (a : Article) (ctx : ArticleContext)
    (f : Frame) :
    ((∀ link ∈ (b.markup place).addresses, IsHarmless link) ↔
      ∀ link ∈ b.payloadAddresses place ++ b.textAddresses place, IsHarmless link) ∧
    (ctx.shell = some (.build f) → ∀ page, articlePage a ctx = .ok page →
      ((∀ link ∈ page.addresses, IsHarmless link) ↔
        ∀ link ∈ a.payloadAddresses ++ ctx.sourceAddresses ++ f.articleAddresses ++
          a.textAddresses ctx ++ f.fragmentAddresses, IsHarmless link)) :=
  ⟨b.forall_mem_addresses_iff place,
    fun hshell _ hpage => forall_mem_addresses_articlePage_iff hshell hpage⟩

/-- A frame without links to pages of trust or to articles. -/
def plainFrame : Frame where
  siteTitle := "Example Site"
  layout := .default
  year := 2025

/-- What the page of an article that cites one source needs. -/
def citingContext (source : String) : ArticleContext where
  domain := "example.com"
  shell := some (.build plainFrame)
  citations :=
    [{ position := 1, sourceUrl := source, sourceTitle := none, retrievedAt := none,
       claimText := none }]
  policy := plainContext.policy
  now := plainContext.now

/-- The page of an article links to a source that it cites, even if the source is a script. -/
theorem citedScript_is_linked_to :
    ∃ page, articlePage (bareWizard "quiz") (citingContext "javascript:alert(1)") = .ok page ∧
      ¬∀ link ∈ page.addresses, IsHarmless link := by
  obtain ⟨page, hpage⟩ : ∃ page,
      articlePage (bareWizard "quiz") (citingContext "javascript:alert(1)") = .ok page :=
    exists_articlePage_of_wizard rfl rfl rfl
  refine ⟨page, hpage, fun h => ?_⟩
  have hiff := (links_harmless_iff (bareBlock "CTABanner" []) plainContext _ _ plainFrame).2 rfl
    page hpage
  have hgiven := hiff.mp h "javascript:alert(1)"
    (by simp [ArticleContext.sourceAddresses, citingContext])
  exact absurd hgiven (by decide)

end

/-! ### A call to action that runs a script -/

/-- A call to action whose address is a script. -/
def scriptCall : Block :=
  bareBlock "CTABanner" [("text", .str "Compare rates"), ("buttonUrl", .str "javascript:alert(1)")]

/-- The address of a call to action is linked to as it is given, even if it is a script. -/
theorem scriptCall_runs_script :
    (scriptCall.markup plainContext).addresses = ["javascript:alert(1)"] ∧
      ¬Link.IsHarmless "javascript:alert(1)" := by
  refine ⟨?_, by decide⟩
  unfold Markup.addresses
  rw [(Block.hasAnchors_markup scriptCall plainContext).2]
  rfl

end StaticSite
