import StaticSite.Preflight.Report
import StaticSite.Proofs.Site.Paths

/-!
# What a ready site promises of its files

Preflight and the compiler judge apart from each other which pages there are. Preflight takes the
routes of all pages of a request, so that pages may be checked while they are drafts; the compiler
makes the files of those that may be published. `ready_pages_compile` says where the two agree.

* An address within the site that a block of a ready site points to is the route of a page, and its
  file is there exactly if a page with that file may be published, or is one of trust.
* A ready site has a page for its start, and its file is there if that page is published. Without
  published pages it is there as well, since the site is then made of articles.

What a block points to is told by `Block.PointsTo`, without the checks.
-/

namespace StaticSite.Preflight

/-!
## The issues of a report

A report lists the concerns of every block of every page, and those of the site as a whole. This
module says how a concern gets into a report, and what a ready site is free of.

* `mem_issues_of_mem_checkBlock` and `mem_issues_of_mem_siteIssues` put concerns into a report.
* `Report.isReady_iff` reads readiness off the issues, without the count of errors.
* `Site.mem_checkBlock_iff` tells which checks the concerns of a block come from.
-/

/-- What the pages of a domain are checked against. -/
def checkedSite (domain : String) (pages : List Page) (niche : Option String) : Site where
  routes := pages.map (·.route)
  slug := withoutLastPart domain
  niche := (niche.filter fun n => !n.isEmpty).getD "general"

variable {domain : String} {pages : List Page} {niche : Option String}

theorem issues_report : (report domain pages niche).issues =
    pages.flatMap (pageIssues (checkedSite domain pages niche)) ++
      siteIssues (checkedSite domain pages niche) := rfl

/-- The concerns of the blocks of all pages are in the report, each at its place. -/
theorem mem_issues_of_mem_checkBlock {p : Page} {b : Block} {concern : Concern} (hp : p ∈ pages)
    (hb : b ∈ p.blocks) (hc : concern ∈ (checkedSite domain pages niche).checkBlock b) :
    ⟨concern, p.route, some b.id⟩ ∈ (report domain pages niche).issues := by
  rw [issues_report]
  refine List.mem_append_left _ (List.mem_flatMap.mpr ⟨p, hp, ?_⟩)
  exact List.mem_append_left _ (List.mem_flatMap.mpr ⟨b, hb, List.mem_map_of_mem hc⟩)

theorem mem_issues_of_mem_siteIssues {i : Issue}
    (hi : i ∈ siteIssues (checkedSite domain pages niche)) :
    i ∈ (report domain pages niche).issues := by
  rw [issues_report]
  exact List.mem_append_right _ hi

/-- A site is ready if no issue is an error. -/
theorem Report.isReady_iff {r : Report} :
    r.isReady = true ↔ ∀ i ∈ r.issues, i.concern.severity ≠ .error := by
  rw [isReady, decide_eq_true_eq, errorCount, List.countP_eq_zero]
  exact forall₂_congr fun _ _ => not_congr decide_eq_true_iff

/-- The checks that the concerns of a block come from. -/
theorem Site.mem_checkBlock_iff {s : Site} {b : Block} {concern : Concern} :
    concern ∈ s.checkBlock b ↔
      (BlockKind.named? b.type = some .header ∧ concern ∈ s.checkHeader b.content) ∨
        concern ∈ s.checkLinks b.content ∨ concern ∈ checkEmpty b ∨ concern ∈ checkForm b ∨
        concern ∈ s.checkNiche ((Json.obj b.content).render .unicode) ∨
        concern ∈ checkMarkers ((Json.obj b.content).render .unicode) ∨ concern ∈ checkHero b := by
  have hheader : concern ∈ (if BlockKind.named? b.type = some .header then
      s.checkHeader b.content else []) ↔
        BlockKind.named? b.type = some .header ∧ concern ∈ s.checkHeader b.content := by
    split
    · next h => exact (and_iff_right h).symm
    · next h => exact iff_of_false List.not_mem_nil fun hc => h hc.1
  unfold checkBlock
  simp only [List.mem_append, hheader, or_assoc]

end StaticSite.Preflight

namespace StaticSite

/-! ## Pages and files -/

/-- **A block points to an address**, in its navigation or by a button. -/
inductive Block.PointsTo (b : Block) : String → Prop where
  | navigation {link : Fields} {href : String} (hkind : BlockKind.named? b.type = some .header)
      (hlink : link ∈ b.content.records "navLinks")
      (hhref : link.lookup "href" = some (.str href)) : b.PointsTo href
  | dropdown {link child : Fields} {href : String} (hkind : BlockKind.named? b.type = some .header)
      (hlink : link ∈ b.content.records "navLinks") (hchild : child ∈ link.records "children")
      (hhref : child.lookup "href" = some (.str href)) : b.PointsTo href
  | button {field href : String} (hfield : field ∈ ["ctaUrl", "buttonUrl"])
      (hhref : b.content.lookup field = some (.str href)) : b.PointsTo href

/-! ### What preflight finds -/

namespace Preflight

variable {s : Site} {b : Block} {href : String}

theorem Site.mem_deadLink? {fs : Fields} {name : String} (hhref : fs.lookup name = some (.str href))
    (hdead : s.isDead href = true) : href ∈ (s.deadLink? fs name).toList := by
  rw [deadLink?, hhref, Option.mem_toList]
  exact Option.filter_eq_some_iff.mpr ⟨rfl, hdead⟩

/-- A block that points nowhere has a concern that is an error. -/
theorem exists_error_of_pointsTo (h : b.PointsTo href) (hdead : s.isDead href = true) :
    ∃ concern ∈ s.checkBlock b, concern.severity = .error := by
  -- A block points somewhere with a link, with one below it, or with a button.
  cases h with
  | @navigation link _ hkind hlink hhref =>
    refine ⟨.brokenNavigation (Site.labelOf link) href,
      Site.mem_checkBlock_iff.mpr (.inl ⟨hkind, ?_⟩), rfl⟩
    refine List.mem_append_left _ (List.mem_flatMap.mpr ⟨link, hlink, List.mem_append_left _ ?_⟩)
    exact List.mem_map_of_mem (Site.mem_deadLink? hhref hdead)
  | @dropdown link child _ hkind hlink hchild hhref =>
    refine ⟨.brokenDropdown (Site.labelOf child) href,
      Site.mem_checkBlock_iff.mpr (.inl ⟨hkind, ?_⟩), rfl⟩
    refine List.mem_append_left _ (List.mem_flatMap.mpr ⟨link, hlink, List.mem_append_right _ ?_⟩)
    exact List.mem_flatMap.mpr
      ⟨child, hchild, List.mem_map_of_mem (Site.mem_deadLink? hhref hdead)⟩
  | @button field _ hfield hhref =>
    refine ⟨.brokenLink field href, Site.mem_checkBlock_iff.mpr (.inr (.inl ?_)), rfl⟩
    exact List.mem_flatMap.mpr
      ⟨field, hfield, List.mem_map_of_mem (Site.mem_deadLink? hhref hdead)⟩

variable {domain : String} {pages : List Page} {niche : Option String}

/-- **What a ready site points to.** An address within the site that a block points to is the route
of a page. -/
theorem exists_page_of_pointsTo (hready : (report domain pages niche).isReady = true) {p : Page}
    (hp : p ∈ pages) (hb : b ∈ p.blocks) (h : b.PointsTo href)
    (hown : Text.startsWith href "/" = true) : ∃ q ∈ pages, q.route = href := by
  by_contra hnone
  have hdead : (checkedSite domain pages niche).isDead href = true := by
    rw [Site.isDead, hown, Bool.true_and, Bool.not_eq_true', ← Bool.not_eq_true,
      List.contains_iff_mem]
    exact fun hmem => hnone (List.mem_map.mp hmem)
  obtain ⟨concern, hconcern, herror⟩ := exists_error_of_pointsTo h hdead
  exact Report.isReady_iff.mp hready _ (mem_issues_of_mem_checkBlock hp hb hconcern) herror

/-- A ready site has a page for its start. -/
theorem exists_home_of_isReady (hready : (report domain pages niche).isReady = true) :
    ∃ q ∈ pages, q.route = "/" := by
  by_contra hnone
  have hneeds : needs (checkedSite domain pages niche) ["/"] .missingHome =
      [⟨.missingHome, wholeSite, none⟩] := by
    refine if_neg fun hany => hnone ?_
    obtain ⟨route, hroute, hmem⟩ := List.any_eq_true.mp hany
    rw [List.mem_singleton.mp hroute, List.contains_iff_mem] at hmem
    exact List.mem_map.mp hmem
  have hissue : ⟨.missingHome, wholeSite, none⟩ ∈ (report domain pages niche).issues := by
    refine mem_issues_of_mem_siteIssues ?_
    unfold siteIssues
    rw [hneeds, List.append_assoc]
    exact List.mem_append_left _ (List.mem_singleton.mpr rfl)
  exact Report.isReady_iff.mp hready _ hissue rfl

end Preflight

/-! ### What the compiler makes of it -/

variable {r : CompileRequest} {d : Domain} {portfolio : List String} {now : Timestamp}
  {domain : String} {niche : Option String}

/-- **What preflight promises of a compiled site.** If preflight finds the pages of a request ready,
then one of them is at the root. A site is made of them if there is nothing else in the request, and
of a site that is made

* there is a file for its start exactly if a page at the root is published or the site is made of
  articles;
* an address within the site to which a block of a published page points is the route of a page of
  the request; its file is there exactly if a page with this file may be published, or if it is that
  of a page of trust. -/
theorem ready_pages_compile (hd : r.domain = some d)
    (hready : (Preflight.report domain r.pages niche).isReady = true) :
    (∃ q ∈ r.pages, q.route = "/") ∧
      (r.articles = [] → r.disclosure = none → ∃ s, compileSite r portfolio now = .ok s) ∧
      ∀ s, compileSite r portfolio now = .ok s →
        ("index.html" ∈ s.paths ↔
          r.mode = .articles ∨ ∃ q ∈ r.pages, q.route = "/" ∧ q.isPublished = true) ∧
        ∀ p ∈ publishedPages r.pages, ∀ b ∈ p.blocks, ∀ href, b.PointsTo href →
          Text.startsWith href "/" = true →
            (∃ q ∈ r.pages, q.route = href) ∧
            (Route.filePath href ∈ s.paths ↔
              (∃ q ∈ r.pages, q.isPublishable = true ∧
                  Route.filePath q.route = Route.filePath href) ∨
                Route.filePath href ∈
                  (Compilation.ofRequest r d portfolio now).keptTrust.map TrustPage.path) := by
  refine ⟨Preflight.exists_home_of_isReady hready, exists_compileSite_of_pages hd,
    fun s h => ⟨?_, fun p hp b hb href hpoints hown => ?_⟩⟩
  · exact (mem_paths_iff_hasPath hd h).trans Compilation.hasPath_index_iff
  -- A site with a published page is made of pages.
  · have hmode : r.mode = .pages :=
      r.mode_eq_pages_iff.mpr (List.ne_nil_of_mem hp)
    refine ⟨Preflight.exists_page_of_pointsTo hready (mem_of_mem_publishedPages hp) hb hpoints
      hown, ?_⟩
    exact (mem_paths_iff_hasPath hd h).trans (Compilation.hasPath_filePath_iff hmode)

/-- A header that leads to the start of a site and to its terms. -/
def bareHeader : Block :=
  bareBlock "Header"
    [("navLinks", .arr [.obj [("href", .str "/")], .obj [("href", .str "/terms")]])]

/-- A request for a site of which two pages are published and two are drafts, the start among
them. -/
def startlessRequest : CompileRequest :=
  { bareRequest with
    pages :=
      [{ barePage "/about" with blocks := [bareHeader] }, barePage "/terms",
       { barePage "/" with isPublished := false },
       { barePage "/privacy" with isPublished := false }] }

theorem isReady_startlessRequest :
    (Preflight.report "example.com" startlessRequest.pages none).isReady = true := by
  decide +kernel

theorem bareHeader_pointsTo : bareHeader.PointsTo "/" ∧ bareHeader.PointsTo "/terms" :=
  ⟨.navigation rfl List.mem_cons_self rfl,
    .navigation rfl (List.mem_cons_of_mem _ List.mem_cons_self) rfl⟩

/-- Of the pages to which the header leads, one has a file and one has none. -/
theorem startlessRequest_compiles :
    ∃ s, compileSite startlessRequest [] bareTime = .ok s ∧
      Route.filePath "/terms" ∈ s.paths ∧ "index.html" ∉ s.paths := by
  obtain ⟨-, hcompiles, hsite⟩ := ready_pages_compile rfl isReady_startlessRequest
  obtain ⟨s, h⟩ := hcompiles rfl rfl
  obtain ⟨hindex, hlinks⟩ := hsite s h
  have hnone : ¬ (startlessRequest.mode = .articles ∨
      ∃ q ∈ startlessRequest.pages, q.route = "/" ∧ q.isPublished = true) := by
    decide
  have hpage : { barePage "/about" with blocks := [bareHeader] } ∈
      publishedPages startlessRequest.pages := List.mem_cons_self
  obtain ⟨-, hterms⟩ := hlinks _ hpage bareHeader List.mem_cons_self "/terms"
    bareHeader_pointsTo.2 rfl
  refine ⟨s, h, hterms.mpr (.inl ⟨barePage "/terms", ?_, rfl, rfl⟩), mt hindex.mp hnone⟩
  exact List.mem_cons_of_mem _ List.mem_cons_self

/-- A site that preflight finds ready lacks the file for its start, to which a block of one of its
pages points. -/
theorem startlessRequest_is_ready :
    (Preflight.report "example.com" startlessRequest.pages none).isReady = true ∧
      (∃ p ∈ publishedPages startlessRequest.pages, ∃ b ∈ p.blocks, b.PointsTo "/") ∧
      ∃ s, compileSite startlessRequest [] bareTime = .ok s ∧ "index.html" ∉ s.paths ∧
        Route.filePath "/" ∉ s.paths := by
  obtain ⟨s, h⟩ : ∃ s, compileSite startlessRequest [] bareTime = .ok s :=
    exists_compileSite_of_pages rfl rfl rfl
  have hindex : "index.html" ∉ s.paths := by
    rw [mem_paths_iff_hasPath rfl h, Compilation.hasPath_index_iff]
    decide
  exact ⟨isReady_startlessRequest,
    ⟨_, List.mem_cons_self, bareHeader, List.mem_cons_self, bareHeader_pointsTo.1⟩,
    s, h, hindex, hindex⟩

end StaticSite
