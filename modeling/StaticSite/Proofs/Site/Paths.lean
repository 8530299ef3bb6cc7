import Mathlib.Data.List.Nodup
import StaticSite.Proofs.Site.Files
import StaticSite.Proofs.Site.Route
import StaticSite.Proofs.Site.Selection
import StaticSite.Service.Message

/-!
# The paths of a site

Seven sources write files into a site: articles, pages for embedding, pages made of blocks, the
fixed files, the pages of trust, the map, and the list that an archive adds. Their paths never
collide. `Compilation.HasPath` says which paths a site has, with one rule for each source, and
`mem_paths_iff_hasPath` says that a compiled site has these and no others.

The paths are distinct because each source keeps its own apart and the sources cannot meet:

* articles have distinct slugs and pages distinct files, by the selection;
* a page for embedding lies below a name that no article may have;
* the fixed files, the map and the list of an archive lie at the root, where contents put nothing
  but the home page;
* a page of trust is left out when its path is taken.

`Compilation.hasPath_filePath_iff` reads the rules from the other side, and says of a route when the
file that it leads to is there.

Slugs and routes come from outside, so that it takes an argument that paths lead nowhere but below
the root of the site. They do, and all their parts are clean (`Route.IsCleanPath`), but for one
character: a line feed at the end of a slug or route is let through and stands in the path.
-/

namespace StaticSite

/-! ### Pages of trust -/

/-- The names of the pages of trust. -/
def trustNames : List String := ["about", "editorial-policy", "how-we-make-money"]

namespace TrustPage

/-- The pages of trust of a site are some of the three, in order. -/
theorem map_path_ofDisclosure_sublist (d : Disclosure) :
    ((ofDisclosure d).map path).Sublist (trustNames.map (· ++ "/index.html")) := by
  simp only [ofDisclosure]
  cases present? d.aboutContent <;> cases present? d.editorialPolicyContent <;>
    cases present? d.howWeMoneyContent <;> exact List.isSublist_iff_sublist.mp rfl

end TrustPage

/-- The kept pages of trust are some of the three, in order. -/
theorem map_path_trustPages_sublist (settings : Option Disclosure) (taken : List String) :
    ((trustPages settings taken).map TrustPage.path).Sublist
      (trustNames.map (· ++ "/index.html")) := by
  cases settings with
  | none => exact List.nil_sublist _
  | some d => exact (List.filter_sublist.map _).trans (TrustPage.map_path_ofDisclosure_sublist d)

theorem path_notMem_of_mem_trustPages {settings : Option Disclosure} {taken : List String}
    {p : TrustPage} (h : p ∈ trustPages settings taken) : p.path ∉ taken := by
  cases settings with
  | none => exact absurd h List.not_mem_nil
  | some d =>
    have hfree := (List.mem_filter.mp h).2
    rw [Bool.not_eq_true', ← Bool.not_eq_true, List.contains_iff_mem] at hfree
    exact hfree

namespace Compilation

/-! ### The sources of paths -/

/-- **The paths of a site**, by what puts them there. -/
inductive HasPath (c : Compilation) : String → Prop where
  | home (hm : c.request.mode = .articles) : HasPath c "index.html"
  | article (hm : c.request.mode = .articles) {a : Article}
      (ha : a ∈ liveArticles c.request.articles) : HasPath c (a.slug ++ "/index.html")
  | embedded (hm : c.request.mode = .articles) {a : Article}
      (ha : a ∈ liveArticles c.request.articles) (he : a.contentType.isEmbeddable = true) :
      HasPath c ("embed/" ++ a.slug ++ ".html")
  | page (hm : c.request.mode = .pages) {p : Page} (hp : p ∈ publishedPages c.request.pages) :
      HasPath c (Route.filePath p.route)
  | fixed {path : String} (h : path ∈ fixedPaths) : HasPath c path
  | trust {p : TrustPage} (hp : p ∈ c.keptTrust) : HasPath c (p.name ++ "/index.html")
  | sitemap : HasPath c "sitemap.xml"

variable {c : Compilation} {path : String}

/-- The contents of a site have the paths of the rules for its mode. -/
theorem hasPath_of_mem_contentPaths (h : path ∈ c.contentPaths) : c.HasPath path := by
  unfold contentPaths at h
  cases hm : c.request.mode with
  | articles =>
    rw [hm] at h
    rcases List.mem_append.mp h with h | h
    · rcases List.mem_cons.mp h with rfl | h
      · exact .home hm
      · obtain ⟨a, ha, rfl⟩ := List.mem_map.mp h
        exact .article hm ha
    · obtain ⟨a, ha, rfl⟩ := List.mem_map.mp h
      exact .embedded hm (List.mem_filter.mp ha).1 (List.mem_filter.mp ha).2
  | pages =>
    rw [hm] at h
    obtain ⟨p, hp, rfl⟩ := List.mem_map.mp h
    exact .page hm hp

theorem contentPaths_of_articles (hm : c.request.mode = .articles) :
    c.contentPaths = "index.html" :: c.articles.map Article.path ++
      (c.articles.filter fun a => a.contentType.isEmbeddable).map Article.embedPath := by
  rw [contentPaths, hm]

theorem contentPaths_of_pages (hm : c.request.mode = .pages) :
    c.contentPaths = c.pages.map fun p => Route.filePath p.route := by
  rw [contentPaths, hm]

theorem hasPath_iff_mem : c.HasPath path ↔ path ∈
    c.contentPaths ++ fixedPaths ++ c.keptTrust.map TrustPage.path ++ ["sitemap.xml"] := by
  rw [List.mem_append, List.mem_append, List.mem_append, List.mem_singleton]
  constructor
  · intro h
    cases h with
    | home hm =>
      rw [contentPaths_of_articles hm]
      exact .inl (.inl (.inl List.mem_cons_self))
    | article hm ha =>
      rw [contentPaths_of_articles hm]
      exact .inl (.inl (.inl (List.mem_append_left _ (List.mem_cons_of_mem _
        (List.mem_map_of_mem ha)))))
    | embedded hm ha he =>
      rw [contentPaths_of_articles hm]
      exact .inl (.inl (.inl (List.mem_append_right _
        (List.mem_map_of_mem (List.mem_filter.mpr ⟨ha, he⟩)))))
    | page hm hp =>
      rw [contentPaths_of_pages hm]
      exact .inl (.inl (.inl (List.mem_map_of_mem hp)))
    | fixed h => exact .inl (.inl (.inr h))
    | trust hp => exact .inl (.inr (List.mem_map_of_mem hp))
    | sitemap => exact .inr rfl
  · rintro (((h | h) | h) | rfl)
    · exact hasPath_of_mem_contentPaths h
    · exact .fixed h
    · obtain ⟨p, hp, rfl⟩ := List.mem_map.mp h
      exact .trust hp
    · exact .sitemap

/-! ### No two paths are the same -/

theorem slash_mem_toList_embedPath (a : Article) : '/' ∈ a.embedPath.toList := by
  rw [Article.embedPath, String.toList_append, String.toList_append]
  exact List.mem_append_left _ (List.mem_append_left _ (by decide))

/-- What lies in a directory is not the home page. -/
theorem index_ne_of_slash_mem (h : '/' ∈ path.toList) : "index.html" ≠ path := by
  rintro rfl
  exact absurd h (by decide)

/-- Only the home page of a site lies at its root. -/
theorem eq_index_or_slash_mem_of_mem_contentPaths (h : path ∈ c.contentPaths) :
    path = "index.html" ∨ '/' ∈ path.toList := by
  cases hm : c.request.mode with
  | articles =>
    rw [contentPaths_of_articles hm] at h
    rcases List.mem_append.mp h with h | h
    · rcases List.mem_cons.mp h with rfl | h
      · exact .inl rfl
      · obtain ⟨a, -, rfl⟩ := List.mem_map.mp h
        exact .inr (slash_mem_toList_append_index a.slug)
    · obtain ⟨a, -, rfl⟩ := List.mem_map.mp h
      exact .inr (slash_mem_toList_embedPath a)
  | pages =>
    rw [contentPaths_of_pages hm] at h
    obtain ⟨p, -, rfl⟩ := List.mem_map.mp h
    exact Route.filePath_eq_index_or_slash_mem p.route

/-- A name at the root of a site, other than that of the home page, is free for other files. -/
theorem notMem_contentPaths {name : String} (hindex : name ≠ "index.html")
    (hslash : '/' ∉ name.toList) : name ∉ c.contentPaths := fun h =>
  (eq_index_or_slash_mem_of_mem_contentPaths h).elim hindex hslash

/-- No page of trust lies at the root of a site. -/
theorem notMem_map_path_keptTrust {name : String} (hslash : '/' ∉ name.toList) :
    name ∉ c.keptTrust.map TrustPage.path := by
  rw [List.mem_map]
  rintro ⟨p, -, rfl⟩
  exact hslash (slash_mem_toList_append_index p.name)

/-- Articles of a site get distinct paths from any rule that keeps their slugs apart. -/
theorem nodup_map_of_slug {f : Article → String} {g : String → String}
    (hg : Function.Injective g) (hf : ∀ a, f a = g a.slug) {articles : List Article}
    (h : articles.Sublist c.articles) : (articles.map f).Nodup := by
  have hslugs : (articles.map Article.slug).Nodup :=
    (nodup_slug_liveArticles c.request.articles).sublist (h.map _)
  have hmap : articles.map f = (articles.map Article.slug).map g := by
    rw [List.map_map]
    exact List.map_congr_left fun a _ => hf a
  rw [hmap]
  exact hslugs.map hg

theorem nodup_map_path : (c.articles.map Article.path).Nodup :=
  nodup_map_of_slug (g := fun slug => slug ++ "/index.html")
    (fun _ _ h => (String.append_left_inj _).mp h) (fun _ => rfl) (List.Sublist.refl _)

theorem nodup_map_embedPath {articles : List Article} (h : articles.Sublist c.articles) :
    (articles.map Article.embedPath).Nodup :=
  nodup_map_of_slug (g := fun slug => "embed/" ++ slug ++ ".html")
    (fun _ _ h => (String.append_right_inj _).mp ((String.append_left_inj _).mp h))
    (fun _ => rfl) h

/-- **The contents of a site have distinct paths.** -/
theorem nodup_contentPaths : c.contentPaths.Nodup := by
  cases hm : c.request.mode with
  | articles =>
    rw [contentPaths_of_articles hm, List.nodup_append, List.nodup_cons]
    refine ⟨⟨?_, nodup_map_path⟩, nodup_map_embedPath List.filter_sublist, ?_⟩
    · rw [List.mem_map]
      rintro ⟨a, -, h⟩
      exact index_ne_of_slash_mem (slash_mem_toList_append_index a.slug) h.symm
    -- Pages for embedding lie below a name that no article may have.
    · intro path hpath embed hembed
      obtain ⟨b, -, rfl⟩ := List.mem_map.mp hembed
      rcases List.mem_cons.mp hpath with rfl | hpath
      · exact index_ne_of_slash_mem (slash_mem_toList_embedPath b)
      · obtain ⟨a, ha, rfl⟩ := List.mem_map.mp hpath
        exact Route.append_index_ne_embed (isSafeSlug_of_mem_liveArticles ha)
          (not_isReserved_of_mem_liveArticles ha) b.slug
  | pages =>
    rw [contentPaths_of_pages hm]
    exact nodup_filePath_publishedPages c.request.pages

theorem nodup_map_path_keptTrust : (c.keptTrust.map TrustPage.path).Nodup :=
  List.Nodup.sublist (map_path_trustPages_sublist c.request.disclosure c.contentPaths) (by decide)

/-- The names of a site at its root, other than that of its home page. -/
theorem ne_index_of_mem_rootNames :
    ∀ name ∈ "sitemap.xml" :: fixedPaths, name ≠ "index.html" ∧ '/' ∉ name.toList := by
  decide

/-- **All paths of a site are distinct.** -/
theorem nodup_sitePaths :
    (c.contentPaths ++ fixedPaths ++ c.keptTrust.map TrustPage.path ++ ["sitemap.xml"]).Nodup := by
  have hcontents : ∀ name ∈ "sitemap.xml" :: fixedPaths, name ∉ c.contentPaths := fun name h =>
    notMem_contentPaths (ne_index_of_mem_rootNames name h).1 (ne_index_of_mem_rootNames name h).2
  have htrust : ∀ name ∈ "sitemap.xml" :: fixedPaths, name ∉ c.keptTrust.map TrustPage.path :=
    fun name h => notMem_map_path_keptTrust (ne_index_of_mem_rootNames name h).2
  rw [List.forall_mem_cons] at hcontents htrust
  rw [List.nodup_append, List.nodup_append, List.nodup_append]
  refine ⟨⟨⟨nodup_contentPaths, by decide, ?_⟩, nodup_map_path_keptTrust, ?_⟩,
    List.nodup_singleton _, ?_⟩
  -- The contents leave the names at the root free.
  · rintro path hpath name hname rfl
    exact hcontents.2 _ hname hpath
  -- A page of trust is kept only if the contents have not taken its path.
  · rintro path hpath name hname rfl
    rcases List.mem_append.mp hpath with hpath | hpath
    · obtain ⟨p, hp, rfl⟩ := List.mem_map.mp hname
      exact path_notMem_of_mem_trustPages hp hpath
    · exact htrust.2 _ hpath hname
  -- The map lies at the root, under a name that no fixed file has.
  · rintro path hpath name hname rfl
    obtain rfl := List.mem_singleton.mp hname
    rcases List.mem_append.mp hpath with hpath | hpath
    · rcases List.mem_append.mp hpath with hpath | hpath
      · exact hcontents.1 hpath
      · exact absurd hpath (by decide)
    · exact htrust.1 hpath

/-! ### The file of a route -/

/-- The file of a route is in a site made of pages if a page with that file may be published, or is
one of trust. -/
theorem hasPath_filePath_iff (hm : c.request.mode = .pages) {route : String} :
    c.HasPath (Route.filePath route) ↔
      (∃ q ∈ c.request.pages, q.isPublishable = true ∧
          Route.filePath q.route = Route.filePath route) ∨
        Route.filePath route ∈ c.keptTrust.map TrustPage.path := by
  rw [hasPath_iff_mem, List.mem_append, List.mem_append, List.mem_append, contentPaths_of_pages hm]
  -- The other files lie at the root, under names that no route leads to.
  have hroot : ∀ name ∈ "sitemap.xml" :: fixedPaths, Route.filePath route ≠ name := by
    intro name hname heq
    obtain ⟨hindex, hslash⟩ := ne_index_of_mem_rootNames name hname
    rw [← heq] at hindex hslash
    exact (Route.filePath_eq_index_or_slash_mem route).elim hindex hslash
  rw [List.forall_mem_cons] at hroot
  constructor
  · rintro (((hmem | hmem) | hmem) | hmem)
    · obtain ⟨q, hq, hpath⟩ := List.mem_map.mp hmem
      exact .inl ⟨q, mem_of_mem_publishedPages hq, isPublishable_of_mem_publishedPages hq, hpath⟩
    · exact absurd rfl (hroot.2 _ hmem)
    · exact .inr hmem
    · exact absurd (List.mem_singleton.mp hmem) hroot.1
  · rintro (⟨q, hq, hpublishable, hpath⟩ | htrust)
    · obtain ⟨p, hp, hsame⟩ := exists_publishedPage_of_isPublishable hq hpublishable
      exact .inl (.inl (.inl (List.mem_map.mpr ⟨p, hp, hsame.trans hpath⟩)))
    · exact .inl (.inr htrust)

/-- A site has a file for its start if it is made of articles or the page for it is published. -/
theorem hasPath_index_iff :
    c.HasPath "index.html" ↔ c.request.mode = .articles ∨
      ∃ q ∈ c.request.pages, q.route = "/" ∧ q.isPublished = true := by
  -- A site made of articles has a list of them at its root; in one made of pages, the root is a
  -- route like others.
  cases hm : c.request.mode with
  | articles => exact iff_of_true (.home hm) (.inl rfl)
  | pages =>
    have hhome : Route.filePath "/" = "index.html" := rfl
    have htrust : "index.html" ∉ c.keptTrust.map TrustPage.path :=
      notMem_map_path_keptTrust (by decide)
    have hsafe : Route.isSafeRoute "/" = true ∧ Route.isReserved (Route.root "/") = false := by
      decide
    rw [← hhome, hasPath_filePath_iff hm, hhome]
    constructor
    · rintro (⟨q, hq, hpublishable, hpath⟩ | hmem)
      · rw [Page.isPublishable, Bool.and_eq_true, Bool.and_eq_true] at hpublishable
        exact .inr ⟨q, hq, Route.filePath_eq_index_iff.mp hpath, hpublishable.1.1⟩
      · exact absurd hmem htrust
    · rintro (h | ⟨q, hq, hroute, hpublished⟩)
      · cases h
      · refine .inl ⟨q, hq, ?_, hroute ▸ hhome⟩
        rw [Page.isPublishable, hroute, hpublished, hsafe.1, hsafe.2]
        rfl

end Compilation

variable {r : CompileRequest} {d : Domain} {portfolio : List String} {now : Timestamp}
  {s : CompiledSite}

/-- The paths of a compiled site, in order. -/
theorem paths_eq_of_compileSite_eq_ok (hd : r.domain = some d)
    (h : compileSite r portfolio now = .ok s) :
    s.paths =
      (Compilation.ofRequest r d portfolio now).contentPaths ++ fixedPaths ++
        (Compilation.ofRequest r d portfolio now).keptTrust.map TrustPage.path ++
          ["sitemap.xml"] := by
  obtain ⟨d', files, hd', hfiles, rfl⟩ := compileSite_eq_ok_iff.mp h
  obtain rfl : d = d' := Option.some.inj (hd.symm.trans hd')
  exact Compilation.map_path_of_site_eq_ok hfiles

/-- A compiled site has the paths that its sources put there, and no others. -/
theorem mem_paths_iff_hasPath (hd : r.domain = some d) (h : compileSite r portfolio now = .ok s)
    {path : String} : path ∈ s.paths ↔ (Compilation.ofRequest r d portfolio now).HasPath path := by
  rw [paths_eq_of_compileSite_eq_ok hd h]
  exact Compilation.hasPath_iff_mem.symm

/-- The list of the files of a site has a place of its own in an archive. -/
theorem path_manifestFile_notMem_paths (hd : r.domain = some d)
    (h : compileSite r portfolio now = .ok s) :
    (Service.Answer.manifestFile s).path ∉ s.paths := by
  have hname : (Service.Answer.manifestFile s).path = "manifest.json" := rfl
  rw [paths_eq_of_compileSite_eq_ok hd h, hname, List.mem_append, List.mem_append,
    List.mem_append]
  rintro (((hmem | hmem) | hmem) | hmem)
  · exact Compilation.notMem_contentPaths (by decide) (by decide) hmem
  · exact absurd hmem (by decide)
  · exact Compilation.notMem_map_path_keptTrust (by decide) hmem
  · exact absurd hmem (by decide)

/-- **Distinct paths.** A request for the site of a domain whose pages can be made is answered by a
site, and

* the paths of its files are distinct, and none is that of the list that an archive adds;
* the number of files that is told is the number of these paths;
* the paths are those of `Compilation.HasPath`, and no others. -/
theorem compileSite_has_distinct_paths (hd : r.domain = some d)
    (hr : (Compilation.ofRequest r d portfolio now).Renders) :
    ∃ s, compileSite r portfolio now = .ok s ∧
      s.paths.Nodup ∧
      (Service.Answer.manifestFile s).path ∉ s.paths ∧
      ("file_count", .int s.paths.length) ∈ s.summary ∧
      ∀ path, path ∈ s.paths ↔ (Compilation.ofRequest r d portfolio now).HasPath path := by
  obtain ⟨s, h⟩ := exists_compileSite_eq_ok_iff.mpr ⟨d, hd, hr⟩
  refine ⟨s, h, ?_, path_manifestFile_notMem_paths hd h, ?_, fun path => mem_paths_iff_hasPath hd h⟩
  · rw [paths_eq_of_compileSite_eq_ok hd h]
    exact Compilation.nodup_sitePaths
  · rw [CompiledSite.paths, List.length_map]
    exact List.mem_cons_of_mem _ (List.mem_cons_of_mem _ List.mem_cons_self)

/-- A request for a site of which several sources want the same places: two wizards and a page of
trust at `about`, and a wizard where pages for embedding go. -/
def crowdedRequest : CompileRequest :=
  { bareRequest with
    articles := [bareWizard "about", bareWizard "embed", bareWizard "about"]
    disclosure := some
      { affiliateDisclosure := none
        advertisingDisclosure := none
        notAdviceDisclaimer := none
        howWeMoneyContent := none
        editorialPolicyContent := none
        aboutContent := some "About the team."
        showReviewedBy := true
        showLastUpdated := true } }

theorem renders_crowdedRequest (now : Timestamp) :
    (Compilation.ofRequest crowdedRequest bareDomain [] now).Renders := by
  have harticles :
      (Compilation.ofRequest crowdedRequest bareDomain [] now).articles = [bareWizard "about"] :=
    rfl
  have htrust : (Compilation.ofRequest crowdedRequest bareDomain [] now).keptTrust = [] := rfl
  refine Compilation.renders_of_wizards (fun _ a ha => ?_) htrust
  rw [harticles, List.mem_singleton] at ha
  rw [ha]
  exact ⟨rfl, rfl⟩

theorem crowdedRequest_has_distinct_paths :
    crowdedRequest.domain = some bareDomain ∧
      (Compilation.ofRequest crowdedRequest bareDomain [] bareTime).Renders ∧
      ∃ s, compileSite crowdedRequest [] bareTime = .ok s ∧
        s.paths.Nodup ∧
        (Service.Answer.manifestFile s).path ∉ s.paths ∧
        ("file_count", .int s.paths.length) ∈ s.summary ∧
        ∀ path, path ∈ s.paths ↔
          (Compilation.ofRequest crowdedRequest bareDomain [] bareTime).HasPath path :=
  ⟨rfl, renders_crowdedRequest bareTime,
    compileSite_has_distinct_paths rfl (renders_crowdedRequest bareTime)⟩

/-! ### Clean paths

`$` in a pattern also matches before a line feed that ends the text, and the patterns of slugs and
routes end in `$`. This one character is what separates safe from clean. -/

/-- Whether no slug or route ends in a line feed, among those that the paths of a site are made
of. -/
def CompileRequest.FreeOfLineFeeds (r : CompileRequest) : Prop :=
  match r.mode with
  | .articles => ∀ a ∈ liveArticles r.articles, ¬ Route.EndsInLineFeed a.slug
  | .pages => ∀ p ∈ publishedPages r.pages, ¬ Route.EndsInLineFeed p.route

theorem CompileRequest.freeOfLineFeeds_iff_of_articles (hm : r.mode = .articles) :
    r.FreeOfLineFeeds ↔ ∀ a ∈ liveArticles r.articles, ¬ Route.EndsInLineFeed a.slug := by
  rw [FreeOfLineFeeds, hm]

theorem CompileRequest.freeOfLineFeeds_iff_of_pages (hm : r.mode = .pages) :
    r.FreeOfLineFeeds ↔ ∀ p ∈ publishedPages r.pages, ¬ Route.EndsInLineFeed p.route := by
  rw [FreeOfLineFeeds, hm]

namespace Compilation

variable {c : Compilation} {path : String}

/-- Without line feeds at the ends of slugs and routes, every source of paths gives clean ones. -/
theorem HasPath.isCleanPath (hfree : c.request.FreeOfLineFeeds) (h : c.HasPath path) :
    Route.IsCleanPath path := by
  have hfixed : ∀ name ∈ fixedPaths, Route.IsCleanPath name := by decide
  have htrust : ∀ name ∈ trustNames.map (· ++ "/index.html"), Route.IsCleanPath name := by decide
  -- One case for each source of paths. Only slugs and routes come from outside.
  cases h with
  | home => decide
  | article hm ha =>
    have hend := (CompileRequest.freeOfLineFeeds_iff_of_articles hm).mp hfree _ ha
    exact (Route.isCleanPath_append_index_iff (isSafeSlug_of_mem_liveArticles ha)).mpr hend
  | embedded hm ha =>
    have hend := (CompileRequest.freeOfLineFeeds_iff_of_articles hm).mp hfree _ ha
    exact (Route.isCleanPath_embed_iff (isSafeSlug_of_mem_liveArticles ha)).mpr hend
  | page hm hp =>
    have hend := (CompileRequest.freeOfLineFeeds_iff_of_pages hm).mp hfree _ hp
    exact (Route.isCleanPath_filePath_iff (isSafeRoute_of_mem_publishedPages hp)).mpr hend
  | fixed h => exact hfixed _ h
  | @trust p hp =>
    have hname : p.path ∈ c.keptTrust.map TrustPage.path := List.mem_map_of_mem hp
    exact htrust _ ((map_path_trustPages_sublist _ _).mem hname)
  | sitemap => decide

/-- A line feed at the end of a slug or route stands in a path of the site. -/
theorem freeOfLineFeeds_of_forall_isCleanPath
    (h : ∀ path, c.HasPath path → Route.IsCleanPath path) : c.request.FreeOfLineFeeds := by
  cases hm : c.request.mode with
  | articles =>
    rw [CompileRequest.freeOfLineFeeds_iff_of_articles hm]
    intro a ha
    exact (Route.isCleanPath_append_index_iff (isSafeSlug_of_mem_liveArticles ha)).mp
      (h _ (.article hm ha))
  | pages =>
    rw [CompileRequest.freeOfLineFeeds_iff_of_pages hm]
    intro p hp
    exact (Route.isCleanPath_filePath_iff (isSafeRoute_of_mem_publishedPages hp)).mp
      (h _ (.page hm hp))

end Compilation

/-- **When paths are clean.**

* A safe slug has no other characters than those of slugs, and a safe route no others than these and
  slashes, exactly if it does not end in a line feed.
* The paths of a compiled site are all clean exactly if none of the slugs or routes they are made of
  ends in a line feed. -/
theorem compileSite_paths_clean_iff (slug route : String) (r : CompileRequest)
    (portfolio : List String) (now : Timestamp) (s : CompiledSite) :
    (Route.isSafeSlug slug = true →
        ((∀ ch ∈ slug.toList, Route.isSlugChar ch = true) ↔ ¬ Route.EndsInLineFeed slug)) ∧
      (Route.isSafeRoute route = true →
        ((∀ ch ∈ route.toList, Route.isSlugChar ch = true ∨ ch = '/') ↔
          ¬ Route.EndsInLineFeed route)) ∧
      (compileSite r portfolio now = .ok s →
        ((∀ path ∈ s.paths, Route.IsCleanPath path) ↔ r.FreeOfLineFeeds)) := by
  refine ⟨Route.forall_isSlugChar_iff, Route.forall_isSlugChar_or_slash_iff, fun h => ?_⟩
  -- The paths of a site are those of the rules, of which only slugs and routes can break the last
  -- condition.
  obtain ⟨d, -, hd, -⟩ := compileSite_eq_ok_iff.mp h
  constructor
  · intro hclean
    exact Compilation.freeOfLineFeeds_of_forall_isCleanPath fun path hpath =>
      hclean path ((mem_paths_iff_hasPath hd h).mpr hpath)
  · intro hfree path hpath
    exact ((mem_paths_iff_hasPath hd h).mp hpath).isCleanPath hfree

theorem crowdedRequest_paths_clean :
    (Route.isSafeSlug "about" = true ∧ ∀ ch ∈ "about".toList, Route.isSlugChar ch = true) ∧
      (Route.isSafeRoute "/a/b/" = true ∧
        ∀ ch ∈ "/a/b/".toList, Route.isSlugChar ch = true ∨ ch = '/') ∧
      ∃ s, compileSite crowdedRequest [] bareTime = .ok s ∧
        ∀ path ∈ s.paths, Route.IsCleanPath path := by
  have hfree : crowdedRequest.FreeOfLineFeeds := by
    have harticles : liveArticles crowdedRequest.articles = [bareWizard "about"] := rfl
    rw [CompileRequest.freeOfLineFeeds_iff_of_articles rfl, harticles, List.forall_mem_singleton]
    decide
  obtain ⟨s, h⟩ :=
    exists_compileSite_eq_ok_iff.mpr ⟨bareDomain, rfl, renders_crowdedRequest bareTime⟩
  obtain ⟨hslug, hroute, hsite⟩ :=
    compileSite_paths_clean_iff "about" "/a/b/" crowdedRequest [] bareTime s
  exact ⟨⟨by decide, (hslug (by decide)).mpr (by decide)⟩,
    ⟨by decide, (hroute (by decide)).mpr (by decide)⟩, s, h, (hsite h).mpr hfree⟩

/-- A request for a site of one wizard whose slug ends in a line feed. -/
def brokenSlugRequest : CompileRequest := { bareRequest with articles := [bareWizard "about\n"] }

/-- A request for a site of one page whose route ends in a line feed. -/
def brokenRouteRequest : CompileRequest := { bareRequest with pages := [barePage "/about\n"] }

/-- **Not all paths are clean.** A line feed gets into a slug, into a route, and into the paths of
sites of either kind. -/
theorem about_line_feed_is_let_through :
    (Route.isSafeSlug "about\n" = true ∧ ¬ ∀ ch ∈ "about\n".toList, Route.isSlugChar ch = true) ∧
      (Route.isSafeRoute "/about\n" = true ∧
        ¬ ∀ ch ∈ "/about\n".toList, Route.isSlugChar ch = true ∨ ch = '/') ∧
      (∃ s, compileSite brokenSlugRequest [] bareTime = .ok s ∧
        ¬ ∀ path ∈ s.paths, Route.IsCleanPath path) ∧
      ∃ s, compileSite brokenRouteRequest [] bareTime = .ok s ∧
        ¬ ∀ path ∈ s.paths, Route.IsCleanPath path := by
  -- Both kinds of sites turn what was let through into a path without looking at it again.
  have hslug : ¬ Route.IsCleanPath ("about\n" ++ "/index.html") := by decide
  have hroute : ¬ Route.IsCleanPath (Route.filePath "/about\n") := by decide
  refine ⟨⟨by decide, fun h => absurd (h '\n' (by decide)) (by decide)⟩,
    ⟨by decide, fun h => absurd (h '\n' (by decide)) (by decide)⟩, ?_, ?_⟩
  · have harticles : (Compilation.ofRequest brokenSlugRequest bareDomain [] bareTime).articles =
        [bareWizard "about\n"] := rfl
    have hr : (Compilation.ofRequest brokenSlugRequest bareDomain [] bareTime).Renders := by
      refine Compilation.renders_of_wizards (fun _ a ha => ?_) rfl
      rw [harticles, List.mem_singleton] at ha
      rw [ha]
      exact ⟨rfl, rfl⟩
    have hmem : bareWizard "about\n" ∈
        (Compilation.ofRequest brokenSlugRequest bareDomain [] bareTime).articles := by
      rw [harticles]
      exact List.mem_singleton_self _
    obtain ⟨s, h⟩ := exists_compileSite_eq_ok_iff.mpr ⟨bareDomain, rfl, hr⟩
    have hbroken := (mem_paths_iff_hasPath rfl h).mpr (.article rfl hmem)
    exact ⟨s, h, fun hclean => hslug (hclean _ hbroken)⟩
  · have hr : (Compilation.ofRequest brokenRouteRequest bareDomain [] bareTime).Renders :=
      Compilation.renders_of_wizards (fun hm => absurd hm (by decide)) rfl
    have hmem : barePage "/about\n" ∈
        (Compilation.ofRequest brokenRouteRequest bareDomain [] bareTime).pages :=
      List.mem_singleton_self _
    obtain ⟨s, h⟩ := exists_compileSite_eq_ok_iff.mpr ⟨bareDomain, rfl, hr⟩
    have hbroken := (mem_paths_iff_hasPath rfl h).mpr (.page rfl hmem)
    exact ⟨s, h, fun hclean => hroute (hclean _ hbroken)⟩

end StaticSite
