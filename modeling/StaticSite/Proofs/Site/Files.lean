import StaticSite.Proofs.Failure
import StaticSite.Site.Compile

/-!
# The files of a compiled site

`compileSite` takes its steps in `Except`, and a site is the outcome of all of them. This module
takes the steps apart once, so that what is said about compiled sites elsewhere need not open them.

* `compileSite_eq_ok_iff` reads a compiled site as the files of a `Compilation`, of either mode.
* `Compilation.Renders` says that the pages that can fail do not: the pages of articles and the
  pages of trust. `exists_compileSite_eq_ok_iff` says that this is all a site needs, besides a
  domain.
* `Compilation.map_path_of_site_eq_ok` gives the paths of the files, in order: the contents of the
  site, the fixed files, the pages of trust whose place is free, and the map.

The linking pass and the renderers change contents only, so that the paths follow from the records
alone (`Compilation.contentPaths`).
-/

namespace StaticSite

/-- The paths of the files of a site. -/
def CompiledSite.paths (s : CompiledSite) : List String := s.files.map (·.path)

/-! ### Steps that keep paths -/

theorem Link.path_linkFile (targets : List Link.Target) (f : SiteFile) :
    (Link.linkFile targets f).path = f.path := by
  unfold Link.linkFile
  split
  · rfl
  · split <;> rfl

theorem Link.map_path_linkFiles (targets : List Link.Target) (files : List SiteFile) :
    (Link.linkFiles targets files).map (·.path) = files.map (·.path) := by
  rw [Link.linkFiles, List.map_map]
  exact List.map_congr_left fun f _ => Link.path_linkFile targets f

namespace TrustPage

variable {p : TrustPage} {shell : PageShell} {policy : Link.LinkPolicy}

theorem path_eq_of_file_eq_ok {f : SiteFile} (h : p.file shell policy = .ok f) :
    f.path = p.path := by
  unfold file at h
  obtain ⟨text, -, h⟩ := exists_of_bind_eq_ok h
  cases h
  rfl

/-- A page of trust can be made as soon as its text can, whatever frame it is put in. -/
theorem exists_file_eq_ok_iff :
    (∃ f, p.file shell policy = .ok f) ↔ ∃ text, renderProse policy p.text = .ok text := by
  unfold file
  exact exists_bind_pure_eq_ok_iff.trans (exists_congr fun _ => mapError_eq_ok_iff)

end TrustPage

/-! ### Paths of trust -/

/-- The paths of the files that every site has. -/
def fixedPaths : List String :=
  ["styles.css", "404.html", "robots.txt", "favicon.svg", "_headers"]

theorem slash_mem_toList_append_index (s : String) : '/' ∈ (s ++ "/index.html").toList := by
  rw [String.toList_append]
  exact List.mem_append_right _ List.mem_cons_self

/-- No page of trust has the path of a fixed file, so that only the contents of a site can take
its place. -/
theorem trustPages_append_fixedPaths (settings : Option Disclosure) (taken : List String) :
    trustPages settings (taken ++ fixedPaths) = trustPages settings taken := by
  have hfixed : ∀ path ∈ fixedPaths, '/' ∉ path.toList := by decide
  cases settings with
  | none => rfl
  | some d =>
    refine List.filter_congr fun p _ => ?_
    have hp : fixedPaths.contains p.path = false := by
      rw [← Bool.not_eq_true, List.contains_iff_mem]
      exact fun hmem => hfixed _ hmem (slash_mem_toList_append_index p.name)
    rw [List.contains_append, hp, Bool.or_false]

/-! ### Embedded pages -/

theorem isSome_embedPage? (a : Article) (domain : String) :
    (embedPage? a domain).isSome = a.contentType.isEmbeddable := by
  unfold embedPage?
  cases a.contentType.isEmbeddable <;> rfl

theorem startsWith_embed_embedPath (a : Article) :
    Text.startsWith a.embedPath "embed/" = true := by
  rw [Text.startsWith, List.isPrefixOf_iff_prefix, Article.embedPath, String.toList_append,
    String.toList_append, List.append_assoc]
  exact List.prefix_append _ _

namespace Compilation

/-- The paths of the pages for embedding, one for each article of a type that can be embedded. -/
theorem map_path_filterMap_embedFile? (c : Compilation) (articles : List Article) :
    (articles.filterMap c.embedFile?).map (·.path) =
      (articles.filter fun a => a.contentType.isEmbeddable).map Article.embedPath := by
  induction articles with
  | nil => rfl
  | cons a rest ih =>
    have hsome := isSome_embedPage? a c.domain.domain
    rw [List.filterMap_cons, List.filter_cons, embedFile?, ← hsome]
    cases embedPage? a c.domain.domain with
    | none => simpa using ih
    | some m => simpa using ih

/-! ### Closing a site -/

variable {c : Compilation} {contents : List SiteFile} {entries : List SitemapEntry}
  {stylesheet : String} {shell : PageShell}

theorem map_path_of_complete_eq_ok {files : List SiteFile}
    (h : c.complete contents entries stylesheet shell = .ok files) :
    files.map (·.path) = contents.map (·.path) ++ fixedPaths ++
      (trustPages c.request.disclosure (contents.map (·.path))).map TrustPage.path ++
        ["sitemap.xml"] := by
  unfold complete at h
  obtain ⟨trustFiles, htrust, h⟩ := exists_of_bind_eq_ok h
  cases h
  have hpaths := map_eq_of_mapM_eq_ok (fun _ _ => TrustPage.path_eq_of_file_eq_ok) htrust
  -- The fixed files are among those that a page of trust could collide with, but never does.
  have hfixed : (c.fixedFiles stylesheet shell).map (·.path) = fixedPaths := rfl
  rw [List.map_append, hfixed, trustPages_append_fixedPaths] at hpaths
  rw [List.map_append, List.map_append, List.map_append, hfixed, hpaths]
  rfl

/-- A site begins with its contents and the files that every site has. -/
theorem exists_append_of_complete_eq_ok {files : List SiteFile}
    (h : c.complete contents entries stylesheet shell = .ok files) :
    ∃ others, files = contents ++ c.fixedFiles stylesheet shell ++ others := by
  obtain ⟨trustFiles, -, h⟩ := exists_of_bind_eq_ok h
  cases h
  exact ⟨_, List.append_assoc ..⟩

theorem exists_complete_eq_ok_iff :
    (∃ files, c.complete contents entries stylesheet shell = .ok files) ↔
      ∀ p ∈ trustPages c.request.disclosure (contents.map (·.path)),
        ∃ text, renderProse c.policy p.text = .ok text := by
  have hfixed : (c.fixedFiles stylesheet shell).map (·.path) = fixedPaths := rfl
  unfold complete
  rw [exists_bind_pure_eq_ok_iff, exists_mapM_eq_ok_iff, List.map_append, hfixed,
    trustPages_append_fixedPaths]
  exact forall₂_congr fun _ _ => TrustPage.exists_file_eq_ok_iff

/-! ### Contents -/

variable (c)

/-- The paths of the contents of a site: the home page, articles and pages for embedding, or the
pages that it is made of. -/
def contentPaths : List String :=
  match c.request.mode with
  | .articles =>
    "index.html" :: c.articles.map Article.path ++
      (c.articles.filter fun a => a.contentType.isEmbeddable).map Article.embedPath
  | .pages => c.pages.map fun p => Route.filePath p.route

/-- The pages of trust whose places the contents of the site leave free. -/
def keptTrust : List TrustPage := trustPages c.request.disclosure c.contentPaths

/-- **The pages of a site can be made.** In a site made of articles these are the pages of the
articles; in either kind they are the pages of trust that are kept. -/
def Renders : Prop :=
  (c.request.mode = .articles →
      ∀ a ∈ c.articles, ∃ page, articlePage a (c.articleContext a) = .ok page) ∧
    ∀ p ∈ c.keptTrust, ∃ text, renderProse c.policy p.text = .ok text

/-- The files of a site, by what it is made of. -/
def site : Except PageError (List SiteFile) :=
  match c.request.mode with
  | .pages => c.blockSite
  | .articles => c.articleSite

variable {c}

theorem path_eq_of_articleFile_eq_ok {a : Article} {f : SiteFile} (h : c.articleFile a = .ok f) :
    f.path = a.path := by
  unfold articleFile at h
  obtain ⟨page, -, h⟩ := exists_of_bind_eq_ok h
  cases h
  rfl

/-- The contents of a site made of articles, once their pages are made. -/
theorem map_path_articleContents (targets : List Link.Target) {pages : List SiteFile}
    (h : c.articles.mapM c.articleFile = .ok pages) :
    (Link.linkFiles targets (c.homeFile :: pages) ++ c.articles.filterMap c.embedFile?).map
        (·.path) =
      "index.html" :: c.articles.map Article.path ++
        (c.articles.filter fun a => a.contentType.isEmbeddable).map Article.embedPath := by
  have hpages := map_eq_of_mapM_eq_ok (fun _ _ => path_eq_of_articleFile_eq_ok) h
  rw [List.map_append, Link.map_path_linkFiles, List.map_cons, hpages,
    map_path_filterMap_embedFile?]
  rfl

/-- The contents of a site made of pages. -/
theorem map_path_blockContents (targets : List Link.Target) :
    (Link.linkFiles targets (c.pages.map c.pageFile)).map (·.path) =
      c.pages.map fun p => Route.filePath p.route := by
  rw [Link.map_path_linkFiles, List.map_map]
  rfl

/-- **The paths of a site, in order.** -/
theorem map_path_of_site_eq_ok {files : List SiteFile} (h : c.site = .ok files) :
    files.map (·.path) =
      c.contentPaths ++ fixedPaths ++ c.keptTrust.map TrustPage.path ++ ["sitemap.xml"] := by
  unfold site at h
  unfold keptTrust contentPaths
  cases hm : c.request.mode with
  | articles =>
    rw [hm] at h
    obtain ⟨pages, hpages, h⟩ := exists_of_bind_eq_ok h
    rw [map_path_of_complete_eq_ok h, map_path_articleContents _ hpages]
  | pages =>
    rw [hm] at h
    rw [map_path_of_complete_eq_ok h, map_path_blockContents]

/-- A site has files exactly if its pages can be made. -/
theorem exists_site_eq_ok_iff : (∃ files, c.site = .ok files) ↔ c.Renders := by
  unfold site Renders keptTrust contentPaths
  cases hm : c.request.mode with
  | articles =>
    -- Besides the pages of articles only those of trust can fail, and the paths that decide which
    -- of them are kept do not depend on the contents.
    have harticles : (∃ pages, c.articles.mapM c.articleFile = .ok pages) ↔
        ∀ a ∈ c.articles, ∃ page, articlePage a (c.articleContext a) = .ok page := by
      rw [exists_mapM_eq_ok_iff]
      exact forall₂_congr fun _ _ => exists_bind_pure_eq_ok_iff
    rw [← harticles]
    constructor
    · rintro ⟨files, h⟩
      obtain ⟨pages, hpages, h⟩ := exists_of_bind_eq_ok h
      have htrust := exists_complete_eq_ok_iff.mp ⟨files, h⟩
      rw [map_path_articleContents _ hpages] at htrust
      exact ⟨fun _ => ⟨pages, hpages⟩, htrust⟩
    · rintro ⟨hpages, htrust⟩
      obtain ⟨pages, hpages⟩ := hpages rfl
      show ∃ files, (c.articles.mapM c.articleFile >>= _) = .ok files
      rw [hpages]
      refine exists_complete_eq_ok_iff.mpr ?_
      rw [map_path_articleContents _ hpages]
      exact htrust
  | pages =>
    show (∃ files, c.complete _ _ _ _ = .ok files) ↔ _
    rw [exists_complete_eq_ok_iff, map_path_blockContents]
    exact ⟨fun h => ⟨fun hne => (nomatch hne), h⟩, fun h => h.2⟩

/-! ### Compiled sites -/

/-- What the files of the site of a request are made from. -/
def ofRequest (r : CompileRequest) (d : Domain) (portfolio : List String) (now : Timestamp) :
    Compilation :=
  { request := r, domain := d, policy := .ofDomain d.domain portfolio, now }

end Compilation

variable {r : CompileRequest} {portfolio : List String} {now : Timestamp}

/-- Compiling the site of a domain, as one computation. -/
theorem compileSite_eq_of_domain {d : Domain} (hd : r.domain = some d) :
    compileSite r portfolio now =
      ((Compilation.ofRequest r d portfolio now).site.mapError CompileError.page >>= fun files =>
        pure { domain := d.domain, mode := r.mode, files }) := by
  have hmode : (Compilation.ofRequest r d portfolio now).request.mode = r.mode := rfl
  unfold compileSite Compilation.site
  rw [hd, hmode]
  cases r.mode <;> rfl

/-- A compiled site is made of the files of its compilation. -/
theorem compileSite_eq_ok_iff {s : CompiledSite} :
    compileSite r portfolio now = .ok s ↔
      ∃ d files, r.domain = some d ∧ (Compilation.ofRequest r d portfolio now).site = .ok files ∧
        s = { domain := d.domain, mode := r.mode, files } := by
  constructor
  · intro h
    cases hd : r.domain with
    | none =>
      unfold compileSite at h
      rw [hd] at h
      cases h
    | some d =>
      rw [compileSite_eq_of_domain hd] at h
      obtain ⟨files, hfiles, h⟩ := exists_of_bind_eq_ok h
      cases h
      exact ⟨d, files, rfl, mapError_eq_ok_iff.mp hfiles, rfl⟩
  · rintro ⟨d, files, hd, hfiles, rfl⟩
    rw [compileSite_eq_of_domain hd, hfiles]
    rfl

/-- **When a site can be compiled.** It needs a domain, and pages that can be made. -/
theorem exists_compileSite_eq_ok_iff :
    (∃ s, compileSite r portfolio now = .ok s) ↔
      ∃ d, r.domain = some d ∧ (Compilation.ofRequest r d portfolio now).Renders := by
  constructor
  · rintro ⟨s, h⟩
    obtain ⟨d, files, hd, hfiles, -⟩ := compileSite_eq_ok_iff.mp h
    exact ⟨d, hd, Compilation.exists_site_eq_ok_iff.mp ⟨files, hfiles⟩⟩
  · rintro ⟨d, hd, hr⟩
    obtain ⟨files, hfiles⟩ := Compilation.exists_site_eq_ok_iff.mpr hr
    exact ⟨_, compileSite_eq_ok_iff.mpr ⟨d, files, hd, hfiles, rfl⟩⟩

/-! ### Bare records

The smallest records of a site. A wizard without steps shows no text of its own, so that its page
can always be made. -/

/-- The page of a wizard without steps can be made. -/
theorem exists_articlePage_of_wizard {a : Article} {ctx : ArticleContext} {shell : PageShell}
    (htype : a.contentType = .wizard) (hsteps : a.payloads.wizard = none)
    (hshell : ctx.shell = some shell) : ∃ page, articlePage a ctx = .ok page := by
  have hparts : ArticleParts.ofArticle a ctx =
      .ok { contents := missingWizard, subject := .application } := by
    rw [ArticleParts.ofArticle, htype]
    show ArticleParts.wizard a ctx .wizard = _
    rw [ArticleParts.wizard, hsteps]
    rfl
  unfold articlePage
  rw [hparts]
  show ∃ page, ArticleParts.page _ a ctx = .ok page
  rw [ArticleParts.page, hshell]
  exact ⟨_, rfl⟩

/-- A site made of wizards without steps, if it is made of articles, and without pages of trust can
be compiled. -/
theorem Compilation.renders_of_wizards {c : Compilation}
    (ha : c.request.mode = .articles →
      ∀ a ∈ c.articles, a.contentType = .wizard ∧ a.payloads.wizard = none)
    (ht : c.keptTrust = []) : c.Renders := by
  constructor
  · intro hm a hmem
    obtain ⟨htype, hsteps⟩ := ha hm a hmem
    exact exists_articlePage_of_wizard htype hsteps rfl
  · rw [ht]
    exact fun p hp => absurd hp List.not_mem_nil

/-- A site can be compiled of pages alone. -/
theorem exists_compileSite_of_pages {d : Domain} (hd : r.domain = some d) (ha : r.articles = [])
    (ht : r.disclosure = none) : ∃ s, compileSite r portfolio now = .ok s := by
  refine exists_compileSite_eq_ok_iff.mpr ⟨d, hd, Compilation.renders_of_wizards ?_ ?_⟩
  · have hnone : (Compilation.ofRequest r d portfolio now).articles = [] := by
      show liveArticles r.articles = []
      rw [ha]
      rfl
    rw [hnone]
    exact fun _ a hmem => absurd hmem List.not_mem_nil
  · show trustPages r.disclosure _ = []
    rw [ht]
    rfl

/-- A domain of which nothing is known but its name. -/
def bareDomain : Domain where
  id := "domain"
  domain := "example.com"
  niche := none
  subNiche := none
  vertical := none
  template := none
  themeStyle := none
  theme := none
  skin := none
  siteTitle := none

/-- A published wizard without steps. -/
def bareWizard (slug : String) : Article where
  id := slug
  domainId := none
  slug
  title := slug
  metaDescription := none
  contentMarkdown := ""
  contentType := .wizard
  status := .published
  sensitivity := .none
  reviewedBy := none
  times :=
    { lastReviewed := none, created := none, updated := none, published := none, deleted := none }
  payloads :=
    { calculator := none, wizard := none, comparison := none, costGuide := none, research := none,
      geo := none, cta := none, leadForm := none }

/-- A block with some content and no configuration. -/
def bareBlock (type : String) (content : Fields) : Block where
  id := type
  type
  variant := none
  content
  config := []

/-- A published page without blocks. -/
def barePage (route : String) : Page where
  id := route
  route
  title := none
  metaDescription := none
  theme := none
  skin := none
  blocks := []
  isPublished := true
  updatedAt := none

/-- A request for the site of `bareDomain`, which has nothing to publish. -/
def bareRequest : CompileRequest where
  domain := some bareDomain
  articles := []
  pages := []
  datasets := []
  citations := []
  disclosure := none
  monetization := none
  portfolioHostnames := []

/-- A moment at which a site is made. -/
def bareTime : Timestamp where
  date := { year := 2024, month := 1, day := 1 }
  hour := 0
  minute := 0
  second := 0
  micro := 0
  offset := none

end StaticSite
