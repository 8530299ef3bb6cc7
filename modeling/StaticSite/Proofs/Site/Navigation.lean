import StaticSite.Proofs.Site.Route
import StaticSite.Proofs.Page.Frame
import StaticSite.Proofs.Site.Paths

/-!
# Where the links of a site lead

The links of a site are written by the frame of its pages and its files by the compilation, and each
decides for itself what there is to link to or to write. `compileSite_links_lead_to_files` says that
they agree.

`CompiledSite.LeadsTo` is what a link has to do. The links of the frame are known
(`Frame.pageLinks`), and so are the sources of paths (`Compilation.HasPath`):

* the root leads to the home page, and a route of an article to its page, since a safe slug needs no
  escape and stands alone between its slashes;
* the style sheet, the icon and the map are linked by name;
* a link to a page of trust and the page itself depend on the same text of the disclosure
  (`map_filePath_trustLinks`). The page is left out only where the contents of the site have its
  path, and then the link leads to these.

`Compilation.HasPage` are the pages in the frame, with the parts that come from elsewhere and whose
links the frame cannot answer for.
-/

namespace StaticSite

/-! ### Pages of trust -/

/-- **The links to the pages of trust lead to these pages**, each to its own, in order. -/
theorem map_filePath_trustLinks (d : Disclosure) :
    (trustLinks (some d)).map (fun l => Route.filePath l.href) =
      (TrustPage.ofDisclosure d).map TrustPage.path := by
  simp only [trustLinks, TrustPage.ofDisclosure]
  cases present? d.aboutContent <;> cases present? d.editorialPolicyContent <;>
    cases present? d.howWeMoneyContent <;> rfl

/-- The links to the pages of trust are some of three, in order. -/
theorem map_href_trustLinks_sublist (settings : Option Disclosure) :
    ((trustLinks settings).map (·.href)).Sublist
      (trustNames.map fun name => "/" ++ name ++ "/") := by
  cases settings with
  | none => exact List.nil_sublist _
  | some d =>
    simp only [trustLinks]
    cases present? d.aboutContent <;> cases present? d.editorialPolicyContent <;>
      cases present? d.howWeMoneyContent <;> exact List.isSublist_iff_sublist.mp rfl

/-- Every page of trust that is made has a link, whatever paths are taken. -/
theorem exists_trustLink_of_mem_trustPages {settings : Option Disclosure} {taken : List String}
    {p : TrustPage} (hp : p ∈ trustPages settings taken) :
    ∃ l ∈ trustLinks settings, Route.filePath l.href = p.path := by
  cases settings with
  | none => exact absurd hp List.not_mem_nil
  | some d =>
    have hpath : p.path ∈ (TrustPage.ofDisclosure d).map TrustPage.path :=
      List.mem_map_of_mem (List.mem_filter.mp hp).1
    rw [← map_filePath_trustLinks] at hpath
    obtain ⟨l, hl, hfile⟩ := List.mem_map.mp hpath
    exact ⟨l, hl, hfile⟩

namespace Compilation

variable {c : Compilation}

/-- A link to a page of trust leads to that page or to what has taken its place. -/
theorem hasPath_of_mem_trustLinks {l : NavLink} (hl : l ∈ trustLinks c.request.disclosure) :
    c.HasPath (Route.filePath l.href) := by
  cases hd : c.request.disclosure with
  | none =>
    rw [hd] at hl
    exact absurd hl List.not_mem_nil
  | some d =>
    rw [hd] at hl
    have hpath : Route.filePath l.href ∈ (TrustPage.ofDisclosure d).map TrustPage.path :=
      map_filePath_trustLinks d ▸ List.mem_map_of_mem (f := fun l => Route.filePath l.href) hl
    obtain ⟨p, hp, hfile⟩ := List.mem_map.mp hpath
    rw [← hfile]
    -- The page is made unless its path is taken, and then the site has that path already.
    by_cases htaken : p.path ∈ c.contentPaths
    · exact hasPath_of_mem_contentPaths htaken
    · refine .trust (p := p) ?_
      rw [keptTrust, hd]
      exact List.mem_filter.mpr ⟨hp, by simpa using htaken⟩

end Compilation

/-! ### Links that lead to files -/

/-- **A link leads to a file of a site**: it begins at the root, and names a file or the route of
one. -/
def CompiledSite.LeadsTo (s : CompiledSite) (link : String) : Prop :=
  ∃ place, link = "/" ++ place ∧ (place ∈ s.paths ∨ Route.filePath link ∈ s.paths)

/-- **The links of a page lead to files of a site**, all but those of given parts of it. -/
def CompiledSite.Navigates (s : CompiledSite) (page : Markup) (others : List Markup) : Prop :=
  ∃ own, page.links.Perm (own ++ others.flatMap Markup.links) ∧ ∀ link ∈ own, s.LeadsTo link

/-- The links of a page whose frame is put around some links that stand between two fragments. -/
theorem perm_flatMap_links {before after : Markup} {frame added links : List String}
    (h : links.Perm (frame ++ (before.links ++ added ++ after.links))) :
    links.Perm (frame ++ added ++ [before, after].flatMap Markup.links) := by
  refine h.trans ?_
  rw [List.perm_iff_count]
  intro link
  simp only [List.count_append, List.flatMap_cons, List.flatMap_nil, List.count_nil]
  omega

/-- Pages of which the links of the frame, and those that are added between two fragments, lead to
files. -/
theorem CompiledSite.Navigates.of_perm {s : CompiledSite} {page before after : Markup}
    {frame added : List String}
    (h : page.links.Perm (frame ++ (before.links ++ added ++ after.links)))
    (hframe : ∀ link ∈ frame, s.LeadsTo link) (hadded : ∀ link ∈ added, s.LeadsTo link) :
    s.Navigates page [before, after] :=
  ⟨frame ++ added, perm_flatMap_links h, List.forall_mem_append.mpr ⟨hframe, hadded⟩⟩

namespace Compilation

variable (c : Compilation)

/-- What the frame of the pages of articles is made from. -/
def articleFrame : Frame where
  siteTitle := c.title
  layout := c.layout
  settings := c.request.disclosure
  links := c.articleLinks
  monetization := c.request.monetization
  niche := c.domain.niche
  year := c.today.year

theorem articleShell_eq : c.articleShell = .build c.articleFrame := rfl

/-- **The pages that the frame is put around** in a site made of articles, each with the parts of it
that come from elsewhere: what the articles and the pages of trust say, and the fragments of a
provider of advertisements. -/
inductive HasPage : Markup → List Markup → Prop where
  | home :
      HasPage (homePage c.domain.domain c.domain.niche c.layout.hero c.articleLinks c.articleShell)
        [c.articleShell.headFragments .empty, c.articleShell.bodyFragment]
  | missing :
      HasPage (missingPage c.articleShell)
        [c.articleShell.headFragments .empty, c.articleShell.bodyFragment]
  | framed (head : PageShell.PageHead) (contents : Markup) :
      HasPage (c.articleShell.wrap head contents)
        [c.articleShell.headFragments head.extra, contents, c.articleShell.bodyFragment]

/-- A file of a site is a page that the frame is put around, perhaps with mentions of other pages
turned into links. -/
def IsPageFile (f : SiteFile) : Prop :=
  ∃ page others, c.HasPage page others ∧
    (f.content = page.text ∨
      ∃ targets file, file.content = page.text ∧ f = Link.linkFile targets file)

/-! ### The links of the frame -/

variable {c} {s : CompiledSite}

section

variable (hpaths : ∀ path, c.HasPath path → path ∈ s.paths)
include hpaths

/-- A route leads to its file. -/
theorem leadsTo_of_hasPath_filePath {place : String}
    (h : c.HasPath (Route.filePath ("/" ++ place))) : s.LeadsTo ("/" ++ place) :=
  ⟨place, rfl, .inr (hpaths _ h)⟩

theorem leadsTo_root (hm : c.request.mode = .articles) : s.LeadsTo "/" :=
  ⟨"", rfl, .inr (hpaths "index.html" (.home hm))⟩

theorem leadsTo_of_mem_trustTargets {link : String} (h : link ∈ c.articleFrame.trustTargets) :
    s.LeadsTo link := by
  have hnames : ∀ name ∈ trustNames, (esc ("/" ++ name ++ "/")).text = "/" ++ (name ++ "/") := by
    decide
  obtain ⟨l, hl, rfl⟩ := List.mem_map.mp h
  -- The target is one of three known texts, none of which has a character to escape.
  have hhref := (map_href_trustLinks_sublist _).mem (List.mem_map_of_mem (f := (·.href)) hl)
  obtain ⟨name, hname, heq⟩ := List.mem_map.mp hhref
  have hpath := hasPath_of_mem_trustLinks hl
  rw [← heq, String.append_assoc] at hpath
  rw [← heq, hnames name hname]
  exact leadsTo_of_hasPath_filePath hpaths hpath

theorem leadsTo_of_mem_articleLinks (hm : c.request.mode = .articles) {link : String}
    (h : link ∈ NavLink.targets c.articleLinks) : s.LeadsTo link := by
  obtain ⟨l, hl, rfl⟩ := List.mem_map.mp h
  obtain ⟨a, ha, rfl⟩ := List.mem_map.mp hl
  have hsafe := isSafeSlug_of_mem_liveArticles ha
  have hfile : Route.filePath a.route = a.slug ++ "/index.html" :=
    (Route.filePath_name (Route.ne_empty_of_isSafeSlug hsafe)
      (Route.slash_notMem_of_isSafeSlug hsafe)).2
  have hroute : a.route = "/" ++ (a.slug ++ "/") := String.append_assoc
  have hpath : c.HasPath (Route.filePath a.route) := hfile ▸ .article hm ha
  rw [hroute] at hpath
  rw [text_esc_route hsafe, hroute]
  exact leadsTo_of_hasPath_filePath hpaths hpath

/-- The style sheet, the icon and the map are linked by the names that they have at the root. -/
theorem leadsTo_rootFiles :
    s.LeadsTo "/styles.css" ∧ s.LeadsTo "/favicon.svg" ∧ s.LeadsTo "/sitemap.xml" :=
  ⟨⟨"styles.css", rfl, .inl (hpaths _ (.fixed (by decide)))⟩,
    ⟨"favicon.svg", rfl, .inl (hpaths _ (.fixed (by decide)))⟩,
    ⟨"sitemap.xml", rfl, .inl (hpaths _ .sitemap)⟩⟩

/-- **Every link of the frame leads to a file.** -/
theorem leadsTo_of_mem_pageLinks (hm : c.request.mode = .articles) :
    ∀ link ∈ c.articleFrame.pageLinks, s.LeadsTo link := by
  obtain ⟨hstyles, hicon, hmap⟩ := leadsTo_rootFiles hpaths
  exact c.articleFrame.forall_mem_pageLinks (leadsTo_root hpaths hm) hstyles hicon hmap
    (fun _ => leadsTo_of_mem_trustTargets hpaths) fun _ => leadsTo_of_mem_articleLinks hpaths hm

/-- **The links of every page in the frame lead to files**, but for those of its other parts. -/
theorem HasPage.navigates (hm : c.request.mode = .articles) {page : Markup} {others : List Markup}
    (h : c.HasPage page others) : s.Navigates page others := by
  have hframe := leadsTo_of_mem_pageLinks hpaths hm
  cases h with
  | home =>
    exact .of_perm (links_homePage c.articleFrame _ _ _ _) hframe
      fun _ => leadsTo_of_mem_articleLinks hpaths hm
  | missing =>
    exact .of_perm (links_missingPage c.articleFrame) hframe
      (List.forall_mem_singleton.mpr (leadsTo_root hpaths hm))
  | framed head contents =>
    have hlinks := PageShell.links_wrap c.articleFrame head contents
    refine ⟨c.articleFrame.pageLinks, ?_, hframe⟩
    simpa [articleShell_eq] using hlinks

end

/-! ### The files of pages -/

theorem isPageFile_linkFile {f : SiteFile} {page : Markup} {others : List Markup}
    (h : c.HasPage page others) (hf : f.content = page.text) (targets : List Link.Target) :
    c.IsPageFile (Link.linkFile targets f) :=
  ⟨page, others, h, .inr ⟨targets, f, hf, rfl⟩⟩

theorem isPageFile_of_articleFile {a : Article} {f : SiteFile} (h : c.articleFile a = .ok f)
    (targets : List Link.Target) : c.IsPageFile (Link.linkFile targets f) := by
  obtain ⟨page, hpage, h⟩ := exists_of_bind_eq_ok h
  cases h
  obtain ⟨p, -, hpage⟩ := exists_of_bind_eq_ok hpage
  have hshell : (c.articleContext a).shell = some c.articleShell := rfl
  rw [ArticleParts.page, hshell] at hpage
  cases hpage
  exact isPageFile_linkFile (.framed _ _) rfl targets

/-- Of the files that every site has, only the page for what is missing is a page. -/
theorem content_of_mem_fixedFiles {stylesheet : String} {shell : PageShell} {f : SiteFile}
    (hf : f ∈ c.fixedFiles stylesheet shell) (hhtml : Text.endsWith f.path ".html" = true) :
    f.content = (missingPage shell).text := by
  have hpages : ∀ path ∈ fixedPaths, Text.endsWith path ".html" = true → path = "404.html" := by
    decide
  have hpath : f.path = "404.html" := hpages f.path (List.mem_map_of_mem (f := (·.path)) hf) hhtml
  simp only [fixedFiles, List.mem_cons, List.not_mem_nil, or_false] at hf
  rcases hf with rfl | rfl | rfl | rfl | rfl
  case inr.inl => rfl
  all_goals simp at hpath

/-- **The pages that complete a site.** An HTML file of a site is one of its contents, the page for
what is missing, or a page of trust in the frame. -/
theorem page_of_mem_complete {contents files : List SiteFile} {entries : List SitemapEntry}
    {stylesheet : String} {shell : PageShell}
    (h : c.complete contents entries stylesheet shell = .ok files) {f : SiteFile} (hf : f ∈ files)
    (hhtml : Text.endsWith f.path ".html" = true) :
    f ∈ contents ∨ f.content = (missingPage shell).text ∨
      ∃ head text, f.content = (shell.wrap head text).text := by
  obtain ⟨trustFiles, htrust, h⟩ := exists_of_bind_eq_ok h
  cases h
  -- The contents, the fixed files, the pages of trust, and the map.
  rcases List.mem_append.mp hf with hf | hf
  · rcases List.mem_append.mp hf with hf | hf
    · rcases List.mem_append.mp hf with hf | hf
      · exact .inl hf
      · exact .inr (.inl (content_of_mem_fixedFiles hf hhtml))
    · obtain ⟨p, -, hp⟩ := exists_of_mem_of_mapM_eq_ok htrust hf
      obtain ⟨text, -, hp⟩ := exists_of_bind_eq_ok hp
      cases hp
      exact .inr (.inr ⟨_, _, rfl⟩)
  · rw [List.mem_singleton.mp hf] at hhtml
    have hmap : Text.endsWith "sitemap.xml" ".html" ≠ true := by decide
    exact absurd hhtml hmap

/-- **The frame is put around every page of a site made of articles**, but for the pages for
embedding. -/
theorem isPageFile_of_mem_articleSite {files : List SiteFile} (h : c.articleSite = .ok files)
    {f : SiteFile} (hf : f ∈ files) (hhtml : Text.endsWith f.path ".html" = true)
    (hembed : Text.startsWith f.path "embed/" = false) : c.IsPageFile f := by
  obtain ⟨pages, hpages, h⟩ := exists_of_bind_eq_ok h
  rcases page_of_mem_complete h hf hhtml with hf | hf | ⟨_, _, hf⟩
  · rcases List.mem_append.mp hf with hf | hf
    · obtain ⟨file, hfile, rfl⟩ := List.mem_map.mp hf
      rcases List.mem_cons.mp hfile with rfl | hfile
      · exact isPageFile_linkFile .home rfl _
      · obtain ⟨a, -, ha⟩ := exists_of_mem_of_mapM_eq_ok hpages hfile
        exact isPageFile_of_articleFile ha _
    -- A page for embedding lies below the name that is left out here.
    · have hpath : f.path ∈ (c.articles.filterMap c.embedFile?).map (·.path) :=
        List.mem_map_of_mem hf
      rw [map_path_filterMap_embedFile?] at hpath
      obtain ⟨a, -, ha⟩ := List.mem_map.mp hpath
      rw [← ha, startsWith_embed_embedPath] at hembed
      cases hembed
  · exact ⟨_, _, .missing, .inl hf⟩
  · exact ⟨_, _, .framed _ _, .inl hf⟩

end Compilation

variable {r : CompileRequest} {d : Domain} {portfolio : List String} {now : Timestamp}
  {s : CompiledSite}

/-- **The links of a site lead to its files.**

* In a site made of articles this holds of all links on pages of the frame, but for those that come
  with other parts of a page; and all HTML files, but for those for embedding, are such pages.
* In a site of either kind it holds of the links to the pages of trust, also if contents of the site
  have taken the place of such a page. Conversely there is a link to each page of trust that is
  made, whichever paths are taken. -/
theorem compileSite_links_lead_to_files (hd : r.domain = some d)
    (h : compileSite r portfolio now = .ok s) :
    (r.mode = .articles →
        (∀ page others, (Compilation.ofRequest r d portfolio now).HasPage page others →
          s.Navigates page others) ∧
        ∀ f ∈ s.files, Text.endsWith f.path ".html" = true →
          Text.startsWith f.path "embed/" = false →
            (Compilation.ofRequest r d portfolio now).IsPageFile f) ∧
      (∀ l ∈ trustLinks r.disclosure, Route.filePath l.href ∈ s.paths) ∧
      ∀ taken, ∀ p ∈ trustPages r.disclosure taken,
        ∃ l ∈ trustLinks r.disclosure, Route.filePath l.href = p.path := by
  have hpaths : ∀ path, (Compilation.ofRequest r d portfolio now).HasPath path → path ∈ s.paths :=
    fun _ => (mem_paths_iff_hasPath hd h).mpr
  refine ⟨fun hm => ⟨fun _ _ hpage => hpage.navigates hpaths hm, ?_⟩,
    fun _ hl => hpaths _ (Compilation.hasPath_of_mem_trustLinks hl),
    fun _ _ => exists_trustLink_of_mem_trustPages⟩
  -- What is left is that the HTML files of a site made of articles are pages of the frame.
  obtain ⟨d', files, hd', hfiles, rfl⟩ := compileSite_eq_ok_iff.mp h
  obtain rfl : d = d' := Option.some.inj (hd.symm.trans hd')
  have hmode : (Compilation.ofRequest r d portfolio now).request.mode = .articles := hm
  rw [Compilation.site, hmode] at hfiles
  exact fun _ => Compilation.isPageFile_of_mem_articleSite hfiles

/-- An article has taken the place of the page of trust to which the frame links. Its links lead to
files all the same. -/
theorem crowdedRequest_links_lead_to_files :
    ∃ s, compileSite crowdedRequest [] bareTime = .ok s ∧
      trustPages crowdedRequest.disclosure ["about/index.html"] = [] ∧
      (∀ l ∈ trustLinks crowdedRequest.disclosure, Route.filePath l.href ∈ s.paths) ∧
      ∀ page others,
        (Compilation.ofRequest crowdedRequest bareDomain [] bareTime).HasPage page others →
          s.Navigates page others := by
  obtain ⟨s, h⟩ :=
    exists_compileSite_eq_ok_iff.mpr ⟨bareDomain, rfl, renders_crowdedRequest bareTime⟩
  obtain ⟨hpages, htrust, -⟩ := compileSite_links_lead_to_files rfl h
  exact ⟨s, h, rfl, htrust, (hpages rfl).1⟩

end StaticSite
