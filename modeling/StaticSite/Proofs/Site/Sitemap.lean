import Mathlib.Data.List.Nodup
import StaticSite.Proofs.Page.Canonical
import StaticSite.Proofs.Site.Paths

/-!
# The map of a site and its pages

The map of a site and its files are made apart from each other, from different lists.
`compileSite_is_mapped` says that they fit nevertheless. The entries of the map lead to the HTML
files of the site, each to one and no two to the same, but for the page for what is missing and the
pages for embedding, to which none leads. And a page of an article or one that is made of blocks
names as its canonical link the address that its own entry has in the map, also after mentions of
other pages have become links.

That the two fit is seen on the records that both are made from. `Compilation.entries` are the
entries in terms of the articles or pages and the kept pages of trust, and the paths are known in
the same terms. The canonical link is that of the page as it was made, which the linking pass keeps
(`HasCanonical.cuts`).
-/

namespace StaticSite

/-! ### Reading the map -/

/-- The address that a page has in the map of a site, as it is written there. -/
def SitemapEntry.location (domain : String) (e : SitemapEntry) : String :=
  (esc ("https://" ++ domain ++ e.path)).text

/-- What the tag of an address in a map begins with. -/
def locationOpening : List Char := "loc>".toList

/-- The addresses that the text of a map lists, in order. -/
def mapLocations (map : String) : List String := valuesAfter locationOpening '<' map

theorem bracket_notMem_isoText (d : Date) : '<' ∉ d.isoText.toList := by
  have hpadded (width n : Nat) : '<' ∉ (Date.padded width n).toList := by
    unfold Date.padded
    rw [String.toList_ofList, List.mem_append, not_or]
    refine ⟨fun h => absurd (List.eq_of_mem_replicate h) (by decide), fun h => ?_⟩
    exact absurd (Nat.isDigit_of_mem_toDigits (by decide) (by decide) h) (by decide)
  unfold Date.isoText
  simp only [String.toList_append, List.mem_append, not_or]
  exact ⟨⟨⟨⟨hpadded 4 d.year, by decide⟩, hpadded 2 d.month⟩, by decide⟩, hpadded 2 d.day⟩

/-- What stands behind the address in the line of a page. -/
def SitemapEntry.lineEnd (e : SitemapEntry) : Markup :=
  html "</loc><lastmod>" ++ (html e.lastChange.isoText ++ html "</lastmod></url>")

/-- The line of a page: its address in a tag of its own, and other tags around it. -/
theorem toList_line (domain : String) (e : SitemapEntry) :
    (e.line domain).text.toList = "  <url>".toList ++
      '<' :: (locationOpening ++ (e.location domain).toList) ++ e.lineEnd.text.toList := by
  have hopen : (html "  <url><loc>").text.toList = "  <url>".toList ++ '<' :: locationOpening := rfl
  unfold SitemapEntry.line SitemapEntry.location SitemapEntry.lineEnd
  simp only [Markup.toList_append, hopen, List.append_assoc, List.cons_append]

theorem hasOtherTags_lineEnd (e : SitemapEntry) : e.lineEnd.HasOtherTags locationOpening :=
  .append (by decide) (.append (.of_notMem (bracket_notMem_isoText e.lastChange)) (by decide))

/-- A line of the map gives one address. -/
theorem filterMap_location_line (domain : String) (e : SitemapEntry) (rest : List Char) :
    (tagTexts ((e.line domain).text.toList ++ rest)).filterMap (valueAfter? locationOpening '<') =
      e.location domain :: (tagTexts rest).filterMap (valueAfter? locationOpening '<') := by
  have hnot : '<' ∉ (e.location domain).toList := Markup.notMem_toList_esc _ (by decide)
  have hloc : '<' ∉ locationOpening ++ (e.location domain).toList := by
    rw [List.mem_append, not_or]
    exact ⟨by decide, hnot⟩
  -- The line goes on with a tag, so that the tag of the address has no other text.
  have hlead : leadText (e.lineEnd.text.toList ++ rest) = [] := by
    rw [SitemapEntry.lineEnd, Markup.toList_append]
    rfl
  have hvalue : valueAfter? locationOpening '<' (locationOpening ++ (e.location domain).toList) =
      some (e.location domain) := by
    have hread : valueAfter? locationOpening '<'
        (locationOpening ++ ((e.location domain).toList ++ [])) = some (e.location domain) :=
      valueAfter?_append hnot List.takeWhile_nil
    rwa [List.append_nil] at hread
  rw [toList_line, List.append_assoc, tagTexts_append hloc, hlead, List.append_nil,
    List.filterMap_append, List.filterMap_cons_some hvalue,
    filterMap_valueAfter?_append (hasOtherTags_lineEnd e)]
  rfl

/-- The lines of the map give the addresses of its entries. -/
theorem filterMap_location_lines (domain : String) (entries : List SitemapEntry)
    (rest : List Char) :
    (tagTexts ((Markup.joinWith "\n" (entries.map (SitemapEntry.line domain))).text.toList ++
        rest)).filterMap (valueAfter? locationOpening '<') =
      entries.map (SitemapEntry.location domain) ++
        (tagTexts rest).filterMap (valueAfter? locationOpening '<') := by
  -- On the entries; the last one has no line break behind it.
  induction entries with
  | nil => rfl
  | cons e entries ih =>
    cases entries with
    | nil =>
      rw [List.map_singleton, Markup.joinWith_singleton, filterMap_location_line]
      rfl
    | cons e' entries =>
      have hbreak (more : List Char) : tagTexts ("\n".toList ++ more) = tagTexts more := rfl
      rw [List.map_cons, List.map_cons, Markup.toList_joinWith_cons_cons, List.append_assoc,
        List.append_assoc, filterMap_location_line, hbreak, ← List.map_cons, ih]
      rfl

/-- **The addresses that the text of a map lists are those of its entries.** -/
theorem mapLocations_sitemap (domain : String) (entries : List SitemapEntry) :
    mapLocations (sitemap domain entries).text = entries.map (SitemapEntry.location domain) := by
  have hopen : (html "<?xml version=\"1.0\" encoding=\"UTF-8\"?>\n" ++
      html "<urlset xmlns=\"http://www.sitemaps.org/schemas/sitemap/0.9\">\n").HasOtherTags
        locationOpening := .append (by decide +kernel) (by decide +kernel)
  have hend : (tagTexts (html "\n</urlset>\n").text.toList).filterMap
      (valueAfter? locationOpening '<') = [] := by decide
  unfold mapLocations valuesAfter sitemap
  rw [Markup.html_append, Markup.toList_append, Markup.toList_append, List.append_assoc,
    filterMap_valueAfter?_append hopen, filterMap_location_lines, hend, List.append_nil]

/-! ### The pages that the map lists -/

/-- Whether a path is that of a page for the map: an HTML file, but not the page for what is
missing, and no page for embedding. -/
def isListedPath (path : String) : Bool :=
  Text.endsWith path ".html" && path != "404.html" && !Text.startsWith path "embed/"

theorem isListedPath_append_index {dir : String}
    (h : Text.startsWith (dir ++ "/index.html") "embed/" = false) :
    isListedPath (dir ++ "/index.html") = true := by
  have hhtml : Text.endsWith (dir ++ "/index.html") ".html" = true := by
    rw [Text.endsWith, List.isPrefixOf_iff_prefix, String.toList_append, List.reverse_append]
    exact (by decide : ".html".toList.reverse <+: "/index.html".toList.reverse).trans
      (List.prefix_append _ _)
  have hmissing : dir ++ "/index.html" ≠ "404.html" := fun heq =>
    absurd (heq ▸ slash_mem_toList_append_index dir) (by decide)
  unfold isListedPath
  rw [hhtml, h, bne_iff_ne.mpr hmissing]
  rfl

/-- The page of a route that is not reserved is for the map. -/
theorem isListedPath_filePath {route : String}
    (h : Route.isReserved (Route.root route) = false) :
    isListedPath (Route.filePath route) = true := by
  have hembed := Route.startsWith_embed_filePath h
  unfold Route.filePath at hembed ⊢
  split
  · decide
  · next hroute =>
    rw [if_neg hroute] at hembed
    exact isListedPath_append_index hembed

theorem isListedPath_embedPath (a : Article) : isListedPath a.embedPath = false := by
  unfold isListedPath
  rw [startsWith_embed_embedPath, Bool.not_true, Bool.and_false]

/-- The paths of the pages of articles, or of those made of blocks. -/
def CompileRequest.pagePaths (r : CompileRequest) : List String :=
  match r.mode with
  | .articles => (liveArticles r.articles).map Article.path
  | .pages => (publishedPages r.pages).map fun p => Route.filePath p.route

/-- The fragment for the head of pages that a provider of advertisements supplies. -/
def CompileRequest.headFragment (r : CompileRequest) : String :=
  (Markup.whenSome r.monetization fun m => html m.head).text

namespace Compilation

variable {c : Compilation}

theorem isListedPath_path {a : Article} (ha : a ∈ c.articles) : isListedPath a.path = true :=
  isListedPath_append_index (Route.startsWith_embed_append_index (isSafeSlug_of_mem_liveArticles ha)
    (not_isReserved_of_mem_liveArticles ha))

/-- The contents of a site made of articles that the map lists. -/
theorem filter_isListedPath_contentPaths_of_articles (hm : c.request.mode = .articles) :
    c.contentPaths.filter isListedPath = "index.html" :: c.articles.map Article.path := by
  have hindex : isListedPath "index.html" = true := by decide
  have hpages : (c.articles.map Article.path).filter isListedPath = c.articles.map Article.path :=
    List.filter_eq_self.mpr (List.forall_mem_map.mpr fun a ha => isListedPath_path ha)
  have hembedded (articles : List Article) :
      (articles.map Article.embedPath).filter isListedPath = [] :=
    List.filter_eq_nil_iff.mpr (List.forall_mem_map.mpr fun a _ => by
      rw [isListedPath_embedPath]
      decide)
  rw [contentPaths_of_articles hm, List.filter_append, List.filter_cons_of_pos hindex, hpages,
    hembedded, List.append_nil]

/-- The map lists all contents of a site made of pages. -/
theorem filter_isListedPath_contentPaths_of_pages (hm : c.request.mode = .pages) :
    c.contentPaths.filter isListedPath = c.pages.map fun p => Route.filePath p.route := by
  rw [contentPaths_of_pages hm, List.filter_eq_self, List.forall_mem_map]
  intro p hp
  exact isListedPath_filePath (not_isReserved_of_mem_publishedPages hp)

/-! ### The entries of the map -/

theorem name_mem_trustNames {p : TrustPage} (hp : p ∈ c.keptTrust) : p.name ∈ trustNames := by
  have hpath := (map_path_trustPages_sublist c.request.disclosure c.contentPaths).mem
    (List.mem_map_of_mem hp)
  obtain ⟨name, hname, heq⟩ := List.mem_map.mp hpath
  rwa [(String.append_left_inj _).mp heq] at hname

variable (c)

/-- The entries for the pages of trust. -/
def trustEntries : List SitemapEntry := c.keptTrust.map fun p => ⟨"/" ++ p.name ++ "/", c.today⟩

/-- The entries for the contents of a site. -/
def contentEntries : List SitemapEntry :=
  match c.request.mode with
  | .articles => c.articleEntries
  | .pages => c.pageEntries

/-- The entries of the map of a site. -/
def entries : List SitemapEntry := c.contentEntries ++ c.trustEntries

variable {c} in
theorem entries_of_articles (hm : c.request.mode = .articles) :
    c.entries = c.articleEntries ++ c.trustEntries := by
  rw [entries, contentEntries, hm]

variable {c} in
theorem entries_of_pages (hm : c.request.mode = .pages) :
    c.entries = c.pageEntries ++ c.trustEntries := by
  rw [entries, contentEntries, hm]

theorem map_filePath_trustEntries :
    c.trustEntries.map (fun e => Route.filePath e.path) = c.keptTrust.map TrustPage.path := by
  have hname : ∀ name ∈ trustNames, name ≠ "" ∧ '/' ∉ name.toList := by decide
  unfold trustEntries
  rw [List.map_map]
  refine List.map_congr_left fun p hp => ?_
  have h := hname p.name (name_mem_trustNames hp)
  exact (Route.filePath_name h.1 h.2).2

theorem map_filePath_articleEntries :
    c.articleEntries.map (fun e => Route.filePath e.path) =
      "index.html" :: c.articles.map Article.path := by
  unfold articleEntries
  rw [List.map_cons, List.map_map]
  refine congrArg ("index.html" :: ·) (List.map_congr_left fun a ha => ?_)
  have hsafe := isSafeSlug_of_mem_liveArticles ha
  exact (Route.filePath_name (Route.ne_empty_of_isSafeSlug hsafe)
    (Route.slash_notMem_of_isSafeSlug hsafe)).1

/-- The entries for the contents of a site lead to those that the map lists, in order. -/
theorem map_filePath_contentEntries :
    c.contentEntries.map (fun e => Route.filePath e.path) = c.contentPaths.filter isListedPath := by
  unfold contentEntries
  cases hm : c.request.mode with
  | articles =>
    rw [filter_isListedPath_contentPaths_of_articles hm]
    exact map_filePath_articleEntries c
  | pages =>
    rw [filter_isListedPath_contentPaths_of_pages hm]
    exact List.map_map

/-- **The entries of the map lead to the listed pages of a site**, in order. -/
theorem map_filePath_entries :
    c.entries.map (fun e => Route.filePath e.path) =
      (c.contentPaths ++ fixedPaths ++ c.keptTrust.map TrustPage.path ++ ["sitemap.xml"]).filter
        isListedPath := by
  -- Of the fixed files none is a page for the map, and neither is the map itself.
  have hfixed : fixedPaths.filter isListedPath = [] := by decide
  have hmap : ["sitemap.xml"].filter isListedPath = [] := by decide
  have htrust : (c.keptTrust.map TrustPage.path).filter isListedPath =
      c.keptTrust.map TrustPage.path := by
    have hname : ∀ name ∈ trustNames, isListedPath (name ++ "/index.html") = true := by decide
    exact List.filter_eq_self.mpr (List.forall_mem_map.mpr fun p hp =>
      hname p.name (name_mem_trustNames hp))
  rw [entries, List.map_append, map_filePath_contentEntries, map_filePath_trustEntries,
    List.filter_append, List.filter_append, List.filter_append, hfixed, htrust, hmap,
    List.append_nil, List.append_nil]

variable {c}

/-! ### The files of the map and of pages -/

/-- A site holds its contents, and a map of them and of the pages of trust. -/
theorem mem_of_complete_eq_ok {contents files : List SiteFile} {entries : List SitemapEntry}
    {stylesheet : String} {shell : PageShell}
    (hpaths : contents.map (·.path) = c.contentPaths)
    (h : c.complete contents entries stylesheet shell = .ok files) :
    c.sitemapFile (entries ++ c.trustEntries) ∈ files ∧ ∀ f ∈ contents, f ∈ files := by
  -- Pages of trust are kept by the paths of all files that are there before them.
  have hfixed : (c.fixedFiles stylesheet shell).map (·.path) = fixedPaths := rfl
  have hkept : trustPages c.request.disclosure
      ((contents ++ c.fixedFiles stylesheet shell).map (·.path)) = c.keptTrust := by
    rw [List.map_append, hpaths, hfixed, trustPages_append_fixedPaths]
    rfl
  unfold complete at h
  obtain ⟨trustFiles, -, h⟩ := exists_of_bind_eq_ok h
  cases h
  rw [hkept]
  refine ⟨List.mem_append_right _ (List.mem_singleton.mpr rfl), fun f hf => ?_⟩
  exact List.mem_append_left _ (List.mem_append_left _ (List.mem_append_left _ hf))

/-- A site made of articles holds the map of its entries and the linked pages of its articles. -/
theorem mem_of_articleSite_eq_ok {files : List SiteFile} (hm : c.request.mode = .articles)
    (h : c.articleSite = .ok files) :
    c.sitemapFile c.entries ∈ files ∧ ∃ pages targets, c.articles.mapM c.articleFile = .ok pages ∧
      ∀ f ∈ pages, Link.linkFile targets f ∈ files := by
  obtain ⟨pages, hpages, h⟩ := exists_of_bind_eq_ok h
  have hpaths (targets : List Link.Target) :=
    (map_path_articleContents targets hpages).trans (contentPaths_of_articles hm).symm
  obtain ⟨hmap, hcontents⟩ := mem_of_complete_eq_ok (hpaths _) h
  rw [entries_of_articles hm]
  -- The first of the contents is the page for the start; the others are the pages of articles.
  exact ⟨hmap, pages, _, hpages, fun f hf => hcontents _ <|
    List.mem_append_left _ (List.mem_map_of_mem (List.mem_cons_of_mem _ hf))⟩

/-- A site made of pages holds the map of its entries and its linked pages. -/
theorem mem_of_blockSite_eq_ok {files : List SiteFile} (hm : c.request.mode = .pages)
    (h : c.blockSite = .ok files) :
    c.sitemapFile c.entries ∈ files ∧
      ∃ targets, ∀ p ∈ c.pages, Link.linkFile targets (c.pageFile p) ∈ files := by
  have hpaths (targets : List Link.Target) :=
    (map_path_blockContents targets).trans (contentPaths_of_pages hm).symm
  obtain ⟨hmap, hcontents⟩ := mem_of_complete_eq_ok (hpaths _) h
  rw [entries_of_pages hm]
  exact ⟨hmap, _, fun p hp => hcontents _ (List.mem_map_of_mem (List.mem_map_of_mem hp))⟩

theorem sitemapFile_mem_of_site_eq_ok {files : List SiteFile} (h : c.site = .ok files) :
    c.sitemapFile c.entries ∈ files := by
  unfold site at h
  cases hm : c.request.mode with
  | articles =>
    rw [hm] at h
    exact (mem_of_articleSite_eq_ok hm h).1
  | pages =>
    rw [hm] at h
    exact (mem_of_blockSite_eq_ok hm h).1

/-! ### The page of an entry -/

theorem exists_entry_of_mem_articles (hm : c.request.mode = .articles) {a : Article}
    (ha : a ∈ c.articles) : ∃ e ∈ c.entries, e.path = "/" ++ a.slug := by
  rw [entries_of_articles hm]
  exact ⟨_, List.mem_append_left _ (List.mem_cons_of_mem _ (List.mem_map_of_mem ha)), rfl⟩

theorem exists_entry_of_mem_pages (hm : c.request.mode = .pages) {p : Page} (hp : p ∈ c.pages) :
    ∃ e ∈ c.entries, e.path = p.route := by
  rw [entries_of_pages hm]
  exact ⟨_, List.mem_append_left _ (List.mem_map_of_mem hp), rfl⟩

/-- The page of an article as a file has a canonical link. -/
theorem hasCanonical_articleFile {a : Article} {f : SiteFile} (h : c.articleFile a = .ok f) :
    HasCanonical (canonicalLinks c.request.headFragment = []) (articleUrl c.domain.domain a.slug)
      (tagTexts f.content.toList) := by
  obtain ⟨page, hpage, h⟩ := exists_of_bind_eq_ok h
  cases h
  have hshell : (c.articleContext a).shell = some c.articleShell := rfl
  have hfragment : c.request.headFragment = c.articleShell.headScripts.text := rfl
  have hdomain : c.domain.domain = (c.articleContext a).domain := rfl
  rw [hfragment, hdomain]
  exact hasCanonical_articlePage hshell hpage

/-- A page made of blocks as a file has a canonical link. -/
theorem hasCanonical_pageFile (p : Page) :
    HasCanonical True ("https://" ++ c.domain.domain ++ p.route)
      (tagTexts (c.pageFile p).content.toList) := by
  have hurl : "https://" ++ c.domain.domain ++ p.route = (c.blockContext p).canonicalUrl := rfl
  rw [hurl]
  unfold pageFile
  dsimp only
  exact hasCanonical_blockPage p.blocks (c.blockContext p) "/styles.css"

/-- The page of an article as it stands in a site, linked, has the address of its entry as a
canonical link. -/
theorem exists_page_of_mem_articles (hm : c.request.mode = .articles) {files : List SiteFile}
    (h : c.articleSite = .ok files) {a : Article} (ha : a ∈ c.articles) :
    ∃ f ∈ files, f.path = a.path ∧ ∃ e ∈ c.entries, Route.filePath e.path = a.path ∧
      HasCanonical (canonicalLinks c.request.headFragment = [])
        ("https://" ++ c.domain.domain ++ e.path) (tagTexts f.content.toList) := by
  obtain ⟨-, pages, targets, hpages, hfiles⟩ := mem_of_articleSite_eq_ok hm h
  obtain ⟨file, hfile, hvalue⟩ := exists_mem_of_mapM_eq_ok hpages ha
  obtain ⟨e, he, hroute⟩ := exists_entry_of_mem_articles hm ha
  have hurl : "https://" ++ c.domain.domain ++ e.path = articleUrl c.domain.domain a.slug := by
    rw [hroute, ← String.append_assoc]
    rfl
  have hsafe := isSafeSlug_of_mem_liveArticles ha
  have hplace : Route.filePath e.path = a.path := by
    rw [hroute]
    exact (Route.filePath_name (Route.ne_empty_of_isSafeSlug hsafe)
      (Route.slash_notMem_of_isSafeSlug hsafe)).1
  -- Linking cuts tags and adds those of links, which leaves the canonical link.
  refine ⟨Link.linkFile targets file, hfiles file hfile, ?_, e, he, hplace, ?_⟩
  · rw [Link.path_linkFile, path_eq_of_articleFile_eq_ok hvalue]
  · rw [hurl]
    exact (hasCanonical_articleFile hvalue).cuts (Link.cuts_linkFile targets file)

/-- A page made of blocks as it stands in a site, linked, has the address of its entry as its first
canonical link. -/
theorem exists_page_of_mem_pages (hm : c.request.mode = .pages) {files : List SiteFile}
    (h : c.blockSite = .ok files) {p : Page} (hp : p ∈ c.pages) :
    ∃ f ∈ files, f.path = Route.filePath p.route ∧
      ∃ e ∈ c.entries, Route.filePath e.path = Route.filePath p.route ∧
        HasCanonical True ("https://" ++ c.domain.domain ++ e.path)
          (tagTexts f.content.toList) := by
  obtain ⟨-, targets, hfiles⟩ := mem_of_blockSite_eq_ok hm h
  obtain ⟨e, he, hroute⟩ := exists_entry_of_mem_pages hm hp
  refine ⟨Link.linkFile targets (c.pageFile p), hfiles p hp, Link.path_linkFile _ _, e, he,
    by rw [hroute], ?_⟩
  rw [hroute]
  exact (hasCanonical_pageFile p).cuts (Link.cuts_linkFile targets (c.pageFile p))

/-- **A page of an article or made of blocks has an entry in the map**, and the address of that
entry as a canonical link; the first one, if the fragment of a provider comes after it or holds
none. -/
theorem exists_page_of_mem_pagePaths {files : List SiteFile} (h : c.site = .ok files)
    {path : String} (hpath : path ∈ c.request.pagePaths) :
    ∃ f ∈ files, f.path = path ∧ ∃ e ∈ c.entries, Route.filePath e.path = path ∧
      HasCanonical (c.request.mode = .pages ∨ canonicalLinks c.request.headFragment = [])
        ("https://" ++ c.domain.domain ++ e.path) (tagTexts f.content.toList) := by
  unfold CompileRequest.pagePaths at hpath
  unfold site at h
  cases hm : c.request.mode with
  | articles =>
    rw [hm] at h hpath
    obtain ⟨a, ha, rfl⟩ := List.mem_map.mp hpath
    obtain ⟨f, hf, hfile, e, he, hplace, hcanonical⟩ := exists_page_of_mem_articles hm h ha
    exact ⟨f, hf, hfile, e, he, hplace, hcanonical.imp fun hfirst => hfirst.resolve_left nofun⟩
  | pages =>
    rw [hm] at h hpath
    obtain ⟨p, hp, rfl⟩ := List.mem_map.mp hpath
    obtain ⟨f, hf, hfile, e, he, hplace, hcanonical⟩ := exists_page_of_mem_pages hm h hp
    exact ⟨f, hf, hfile, e, he, hplace, hcanonical.imp fun _ => trivial⟩

end Compilation

/-! ### Compiled sites -/

/-- **The map of a site lists its pages**, by these entries. -/
structure CompiledSite.IsMappedBy (s : CompiledSite) (entries : List SitemapEntry) : Prop where
  /-- The map is a file of the site, and is made of the entries. -/
  mem_files : { path := "sitemap.xml", content := (sitemap s.domain entries).text } ∈ s.files
  /-- The addresses in the text of the map are those of the entries. -/
  mapLocations_eq : mapLocations (sitemap s.domain entries).text =
    entries.map (SitemapEntry.location s.domain)
  /-- The entries lead to the pages for the map, in order. -/
  map_filePath_eq : entries.map (fun e => Route.filePath e.path) = s.paths.filter isListedPath
  /-- No two files have the same path. -/
  nodup_paths : s.paths.Nodup

variable {r : CompileRequest} {portfolio : List String} {now : Timestamp} {s : CompiledSite}

/-- **The map of a site and its pages fit.** A site that is compiled has a map, and

* the entries of the map lead to the HTML files of the site other than the page for what is
  missing and the pages for embedding, each to one and no two to the same;
* the page of an article or one made of blocks has an entry of its own, and the address that this
  entry has in the map is the address of a canonical link on the page. It is the first canonical
  link of the page, unless a provider of advertisements put one before it. -/
theorem compileSite_is_mapped (h : compileSite r portfolio now = .ok s) :
    ∃ entries, s.IsMappedBy entries ∧ ∀ path ∈ r.pagePaths, ∃ f ∈ s.files, f.path = path ∧
      ∃ e ∈ entries, Route.filePath e.path = path ∧
        e.location s.domain ∈ canonicalLinks f.content ∧
        (r.mode = .pages ∨ canonicalLinks r.headFragment = [] →
          (canonicalLinks f.content).head? = some (e.location s.domain)) := by
  obtain ⟨d, files, hd, hfiles, rfl⟩ := compileSite_eq_ok_iff.mp h
  have hpaths := paths_eq_of_compileSite_eq_ok hd h
  -- The entries are those that the map was made from.
  refine ⟨(Compilation.ofRequest r d portfolio now).entries, ⟨?_, ?_, ?_, ?_⟩, fun path hpath => ?_⟩
  · have hmap := Compilation.sitemapFile_mem_of_site_eq_ok hfiles
    unfold Compilation.sitemapFile at hmap
    exact hmap
  · exact mapLocations_sitemap d.domain _
  · rw [hpaths]
    exact Compilation.map_filePath_entries _
  · rw [hpaths]
    exact Compilation.nodup_sitePaths
  · obtain ⟨f, hf, hfile, e, he, hplace, hcanonical⟩ :=
      Compilation.exists_page_of_mem_pagePaths hfiles hpath
    exact ⟨f, hf, hfile, e, he, hplace, hcanonical.mem_filterMap,
      fun hfirst => hcanonical.head?_filterMap hfirst⟩

theorem crowdedRequest_is_mapped :
    ∃ s, compileSite crowdedRequest [] bareTime = .ok s ∧ ∃ entries, s.IsMappedBy entries ∧
      ∃ f ∈ s.files, f.path = "about/index.html" ∧
        ∃ e ∈ entries, Route.filePath e.path = "about/index.html" ∧
          (canonicalLinks f.content).head? = some (e.location s.domain) := by
  obtain ⟨s, h⟩ :=
    exists_compileSite_eq_ok_iff.mpr ⟨bareDomain, rfl, renders_crowdedRequest bareTime⟩
  obtain ⟨entries, hmap, hpages⟩ := compileSite_is_mapped h
  obtain ⟨f, hf, hfile, e, he, hplace, -, hfirst⟩ := hpages "about/index.html" (by decide)
  exact ⟨s, h, entries, hmap, f, hf, hfile, e, he, hplace, hfirst (.inr rfl)⟩

end StaticSite
