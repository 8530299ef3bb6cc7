import StaticSite.Proofs.Link.Insertion
import StaticSite.Proofs.Site.Route
import StaticSite.Proofs.Site.Sitemap

/-!
# What the linking pass does to a site

The pages of a site are made first, and then linked to each other. The pass goes over a list of
files and takes from their paths which pages they hold, so that it could mistake one page for
another: the home page for that of an article, or the page at one route for that at another route
with the same file. `compileSite_links_are_confined` says that it does not.

Everything follows from one fact: the routes of the pages of a site have distinct files
(`Compilation.nodup_pagePaths`). The route that the pass takes from a path is thus that of the page
in the file, and a target other than this route has another file, which the site has as well.
-/

namespace StaticSite

/-- The routes of the pages of articles, or of those made of blocks. -/
def CompileRequest.pageRoutes (r : CompileRequest) : List String :=
  match r.mode with
  | .articles => (liveArticles r.articles).map Article.route
  | .pages => (publishedPages r.pages).map Page.route

namespace Compilation

variable (c : Compilation)

/-- The pages that mentions lead to. -/
def targets : List Link.Target :=
  match c.request.mode with
  | .articles => c.articles.map fun a => ⟨a.route, a.title⟩
  | .pages => c.pages.map fun p => ⟨p.route, p.title.getD ""⟩

/-- The files that the linking pass goes over, before it does. -/
def drafts : Except PageError (List SiteFile) :=
  match c.request.mode with
  | .articles => do return c.homeFile :: (← c.articles.mapM c.articleFile)
  | .pages => .ok (c.pages.map c.pageFile)

/-! ### The routes of pages -/

theorem map_route_targets : c.targets.map Link.Target.route = c.request.pageRoutes := by
  unfold targets CompileRequest.pageRoutes
  cases c.request.mode with
  | articles => exact List.map_map
  | pages => exact List.map_map

theorem map_filePath_pageRoutes :
    c.request.pageRoutes.map Route.filePath = c.request.pagePaths := by
  unfold CompileRequest.pageRoutes CompileRequest.pagePaths
  cases c.request.mode with
  | articles =>
    rw [List.map_map]
    refine List.map_congr_left fun a ha => ?_
    have hsafe := isSafeSlug_of_mem_liveArticles ha
    exact (Route.filePath_name (Route.ne_empty_of_isSafeSlug hsafe)
      (Route.slash_notMem_of_isSafeSlug hsafe)).2
  | pages => exact List.map_map

/-- **The pages of a site have distinct files.** -/
theorem nodup_pagePaths : c.request.pagePaths.Nodup := by
  unfold CompileRequest.pagePaths
  cases c.request.mode with
  | articles => exact nodup_map_path
  | pages => exact nodup_filePath_publishedPages c.request.pages

/-- The home page of a site made of articles is the page of none of them. -/
theorem index_notMem_pagePaths (hm : c.request.mode = .articles) :
    "index.html" ∉ c.request.pagePaths := by
  unfold CompileRequest.pagePaths
  rw [hm]
  intro hmem
  obtain ⟨a, -, ha⟩ := List.mem_map.mp hmem
  exact index_ne_of_slash_mem (slash_mem_toList_append_index a.slug) ha.symm

variable {c}

/-- Different routes of pages have different files. -/
theorem filePath_ne_of_ne {route other : String} (h : route ∈ c.request.pageRoutes)
    (ho : other ∈ c.request.pageRoutes) (hne : route ≠ other) :
    Route.filePath route ≠ Route.filePath other := by
  have hnodup := c.nodup_pagePaths
  rw [← map_filePath_pageRoutes] at hnodup
  exact fun heq => hne (List.inj_on_of_nodup_map hnodup h ho heq)

/-- The route of a page is written in a link as it is. -/
theorem text_esc_of_mem_pageRoutes {route : String} (h : route ∈ c.request.pageRoutes) :
    (esc route).text = route := by
  unfold CompileRequest.pageRoutes at h
  split at h
  · obtain ⟨a, ha, rfl⟩ := List.mem_map.mp h
    exact text_esc_route (isSafeSlug_of_mem_liveArticles ha)
  · obtain ⟨p, hp, rfl⟩ := List.mem_map.mp h
    exact text_esc_of_isSafeRoute (isSafeRoute_of_mem_publishedPages hp)

/-- The pages of a site are among its contents. -/
theorem hasPath_filePath_of_mem_pageRoutes {route : String} (h : route ∈ c.request.pageRoutes) :
    c.HasPath (Route.filePath route) := by
  have hpath : Route.filePath route ∈ c.request.pagePaths :=
    c.map_filePath_pageRoutes ▸ List.mem_map_of_mem h
  refine hasPath_of_mem_contentPaths ?_
  unfold CompileRequest.pagePaths at hpath
  unfold contentPaths
  cases hm : c.request.mode with
  | articles =>
    rw [hm] at hpath
    exact List.mem_append_left _ (List.mem_cons_of_mem _ hpath)
  | pages =>
    rw [hm] at hpath
    exact hpath

/-! ### The pass over the drafts -/

/-- **The files of a site begin with its drafts, linked to each other.** -/
theorem exists_drafts_of_site_eq_ok {files : List SiteFile} (h : c.site = .ok files) :
    ∃ drafts others, c.drafts = .ok drafts ∧
      files = Link.linkFiles c.targets drafts ++ others := by
  unfold site at h
  unfold drafts targets
  cases hm : c.request.mode with
  | articles =>
    rw [hm] at h
    obtain ⟨pages, hpages, h⟩ := exists_of_bind_eq_ok h
    obtain ⟨others, rfl⟩ := exists_append_of_complete_eq_ok h
    rw [List.append_assoc, List.append_assoc]
    refine ⟨c.homeFile :: pages, _, ?_, rfl⟩
    show (c.articles.mapM c.articleFile >>= _) = _
    rw [hpages]
    rfl
  | pages =>
    rw [hm] at h
    obtain ⟨others, rfl⟩ := exists_append_of_complete_eq_ok h
    rw [List.append_assoc]
    exact ⟨_, _, rfl, rfl⟩

end Compilation

/-! ### Linked files -/

/-- **A link on a page leads to another page of a site.** -/
structure CompiledSite.LeadsToOther (s : CompiledSite) (r : CompileRequest) (page route : String) :
    Prop where
  /-- It leads to the page of a live article, or to a published page. -/
  mem_pageRoutes : route ∈ r.pageRoutes
  /-- The address of the link is the route itself. -/
  text_esc : (esc route).text = route
  /-- The page that it leads to is a file of the site. -/
  filePath_mem : Route.filePath route ∈ s.paths
  /-- That file is not the one that holds the link. -/
  filePath_ne : Route.filePath route ≠ page

/-- **A file of a site is a draft with links to other pages**, or the draft itself. -/
structure CompiledSite.IsLinked (s : CompiledSite) (r : CompileRequest) (draft file : SiteFile) :
    Prop where
  path_eq : file.path = draft.path
  isBinary_eq : file.isBinary = draft.isBinary
  /-- Only pages of articles, or those made of blocks, get links. -/
  eq_of_notMem : draft.path ∉ r.pagePaths → file = draft
  /-- The contents are those of the draft but for links that are put into them: not too many, each
  to another page and no two to the same. -/
  exists_inserts : ∃ is, Link.Inserts is draft.content.toList file.content.toList ∧
    is.length ≤ Link.maxLinks ∧ (is.map Link.Insertion.route).Nodup ∧
    ∀ i ∈ is, s.LeadsToOther r draft.path i.route

namespace Compilation

variable {c : Compilation} {s : CompiledSite}

/-- A file that is no page of the site is the page of no target. -/
theorem linkFile_targets_eq_self {f : SiteFile} (h : f.path ∉ c.request.pagePaths) :
    Link.linkFile c.targets f = f := by
  refine Link.linkFile_eq_self fun t ht hpath => h ?_
  have hroute : t.route ∈ c.request.pageRoutes := c.map_route_targets ▸ List.mem_map_of_mem ht
  rw [← hpath, ← map_filePath_pageRoutes]
  exact List.mem_map_of_mem hroute

/-- **The linking pass puts links to other pages into a file**, and does nothing else to it. -/
theorem isLinked_linkFile (hpaths : ∀ path, c.HasPath path → path ∈ s.paths) (f : SiteFile) :
    s.IsLinked c.request f (Link.linkFile c.targets f) where
  path_eq := Link.path_linkFile c.targets f
  isBinary_eq := Link.isBinary_linkFile c.targets f
  eq_of_notMem := linkFile_targets_eq_self
  exists_inserts := by
    have hroutes : (c.targets.map Link.Target.keywords).map Link.PageKeywords.route =
        c.request.pageRoutes := List.map_map.trans c.map_route_targets
    obtain ⟨is, hinserts, rfl | ⟨t, ht, hpath, hallowed⟩⟩ :=
      Link.exists_inserts_linkFile c.targets f
    · exact ⟨[], hinserts, Nat.zero_le _, List.nodup_nil, fun _ hi => absurd hi List.not_mem_nil⟩
    · refine ⟨is, hinserts, hallowed.length_le, hallowed.nodup, fun i hi => ?_⟩
      -- The target is another route than that of the page, and both are routes of pages.
      obtain ⟨htarget, hother, -⟩ := hallowed.leads i hi
      rw [hroutes] at htarget
      have hroute : t.route ∈ c.request.pageRoutes := c.map_route_targets ▸ List.mem_map_of_mem ht
      exact
        { mem_pageRoutes := htarget
          text_esc := text_esc_of_mem_pageRoutes htarget
          filePath_mem := hpaths _ (hasPath_filePath_of_mem_pageRoutes htarget)
          filePath_ne := hpath ▸ filePath_ne_of_ne htarget hroute hother }

end Compilation

variable {r : CompileRequest} {d : Domain} {portfolio : List String} {now : Timestamp}
  {s : CompiledSite}

/-- **The linking pass is confined to pages and sound.** The files of a site begin with its drafts,
linked: the pages of a site made of pages, or the home page and the pages of articles. Linking keeps
their number and order, and of each file

* the path, and whether it is binary;
* the whole contents, unless it is the page of an article or one made of blocks, which the home page
  of a site made of articles is not;
* the contents but for links to other pages: each leads to the route of another live article or
  published page, which is a file of the site, and not the file that holds the link. -/
theorem compileSite_links_are_confined (hd : r.domain = some d)
    (h : compileSite r portfolio now = .ok s) :
    (∃ drafts linked others, (Compilation.ofRequest r d portfolio now).drafts = .ok drafts ∧
        linked = Link.linkFiles (Compilation.ofRequest r d portfolio now).targets drafts ∧
        s.files = linked ++ others ∧ List.Forall₂ (s.IsLinked r) drafts linked) ∧
      (r.mode = .articles → "index.html" ∉ r.pagePaths) := by
  have hpaths : ∀ path, (Compilation.ofRequest r d portfolio now).HasPath path → path ∈ s.paths :=
    fun _ => (mem_paths_iff_hasPath hd h).mpr
  refine ⟨?_, (Compilation.ofRequest r d portfolio now).index_notMem_pagePaths⟩
  obtain ⟨d', files, hd', hfiles, rfl⟩ := compileSite_eq_ok_iff.mp h
  obtain rfl : d = d' := Option.some.inj (hd.symm.trans hd')
  obtain ⟨drafts, others, hdrafts, rfl⟩ := Compilation.exists_drafts_of_site_eq_ok hfiles
  -- The drafts are linked one by one, each by itself.
  refine ⟨drafts, _, others, hdrafts, rfl, rfl, ?_⟩
  unfold Link.linkFiles
  rw [List.forall₂_map_right_iff, List.forall₂_same]
  exact fun f _ => Compilation.isLinked_linkFile hpaths f

/-- A request for a site of three pages, two of which want the same file. -/
def slashedRequest : CompileRequest :=
  { bareRequest with pages := [barePage "/", barePage "/about", barePage "/about/"] }

theorem slashedRequest_links_are_confined :
    ∃ s, compileSite slashedRequest [] bareTime = .ok s ∧
      slashedRequest.pageRoutes = ["/", "/about"] ∧
      ∃ drafts linked others,
        (Compilation.ofRequest slashedRequest bareDomain [] bareTime).drafts = .ok drafts ∧
          s.files = linked ++ others ∧ List.Forall₂ (s.IsLinked slashedRequest) drafts linked := by
  obtain ⟨s, h⟩ : ∃ s, compileSite slashedRequest [] bareTime = .ok s :=
    exists_compileSite_of_pages rfl rfl rfl
  obtain ⟨⟨drafts, linked, others, hdrafts, -, hfiles, hlinked⟩, -⟩ :=
    compileSite_links_are_confined rfl h
  exact ⟨s, h, by decide, drafts, linked, others, hdrafts, hfiles, hlinked⟩

end StaticSite
