import StaticSite.Proofs.Page.BlockLinks
import StaticSite.Proofs.Page.EmbedWidget
import StaticSite.Proofs.Site.Navigation

/-!
# Where the links of a site made of pages lead

A page made of blocks is a document of its own, and the frame is put only around the page for what
is missing and the pages of trust (`Compilation.HasBlockPage`). All of them take for granted that
the site has certain files, which other parts of the compilation write or do not write.

* The style sheet, the icon and the map are always there, and so is what a link to a page of trust
  leads to.
* A file for the start is there exactly if a page at the root is published. The frame links to the
  root whether it is or not, since it is the frame of sites of either kind, and those made of
  articles always have a home page.
* A block may show a page for embedding. These are made from articles only, and a site made of pages
  has none.

`compileSite_page_links_lead_to_files` puts this together.
-/

namespace StaticSite

/-- A link leads to a file of a site, or to the root of a site that has no file for its start. -/
def CompiledSite.LeadsWithin (s : CompiledSite) (link : String) : Prop :=
  s.LeadsTo link ∨ link = "/" ∧ "index.html" ∉ s.paths

/-- **The links of a page that stay within a site lead to its files**, or to a start that is not
there, all but those of given parts of the page. -/
def CompiledSite.NavigatesWithin (s : CompiledSite) (page : Markup) (others : List Markup) : Prop :=
  ∃ own, page.links.Perm (own ++ others.flatMap Markup.links) ∧
    ∀ link ∈ own, Text.startsWith link "/" = true → s.LeadsWithin link

theorem CompiledSite.leadsWithin_root (s : CompiledSite) : s.LeadsWithin "/" := by
  by_cases hindex : "index.html" ∈ s.paths
  · exact .inl ⟨"", rfl, .inr hindex⟩
  · exact .inr ⟨rfl, hindex⟩

namespace Compilation

variable (c : Compilation)

/-- What the frame is made from in a site made of pages, which has no articles to link to. -/
def pageFrame : Frame := { c.articleFrame with links := [] }

theorem shell_nil_eq : c.shell [] = .build c.pageFrame := rfl

/-- **The pages of a site made of pages**, each with the parts of it that come from elsewhere: its
blocks, what the pages of trust say, and the fragments of a provider of advertisements. -/
inductive HasBlockPage : Markup → List Markup → Prop where
  | blocks {p : Page} (hp : p ∈ c.pages) :
      HasBlockPage (blockPage p.blocks (c.blockContext p) "/styles.css")
        ((c.blockContext p).headFragment ::
          (BlockPage.ofBlocks (c.blockContext p) p.blocks).parts ++
            [(c.blockContext p).bodyFragment])
  | missing :
      HasBlockPage (missingPage (c.shell []))
        [(c.shell []).headFragments .empty, (c.shell []).bodyFragment]
  | framed (head : PageShell.PageHead) (contents : Markup) :
      HasBlockPage ((c.shell []).wrap head contents)
        [(c.shell []).headFragments head.extra, contents, (c.shell []).bodyFragment]

/-- A file of a site is one of these pages, perhaps with mentions of other pages turned into
links. -/
def IsBlockPageFile (f : SiteFile) : Prop :=
  ∃ page others, c.HasBlockPage page others ∧
    (f.content = page.text ∨
      ∃ targets file, file.content = page.text ∧ f = Link.linkFile targets file)

variable {c} {s : CompiledSite}

/-! ### The links of pages -/

/-- The page for what is missing leads back to the root, whether there is a start or not. -/
theorem root_mem_links_missingPage (f : Frame) : "/" ∈ (missingPage (.build f)).links :=
  (links_missingPage f).mem_iff.mpr
    (List.mem_append_right _ (List.mem_append_left _ (List.mem_append_right _ List.mem_cons_self)))

section

variable (hpaths : ∀ path, c.HasPath path → path ∈ s.paths)
include hpaths

theorem leadsWithin_of_mem_pageLinks : ∀ link ∈ c.pageFrame.pageLinks, s.LeadsWithin link := by
  obtain ⟨hstyles, hicon, hmap⟩ := leadsTo_rootFiles hpaths
  exact c.pageFrame.forall_mem_pageLinks s.leadsWithin_root (.inl hstyles) (.inl hicon) (.inl hmap)
    (fun _ hlink => .inl (leadsTo_of_mem_trustTargets hpaths hlink))
    fun _ hlink => absurd hlink List.not_mem_nil

/-- **The links of every page lead to files or out of the site**, but for those to a start that is
not there and those of the other parts of the page. -/
theorem HasBlockPage.navigatesWithin {page : Markup} {others : List Markup}
    (h : c.HasBlockPage page others) : s.NavigatesWithin page others := by
  have hframe := leadsWithin_of_mem_pageLinks hpaths
  cases h with
  | @blocks p hp =>
    -- Of the links in the head two stay within the site; the others lead to fonts, or are the
    -- address of the page itself.
    refine ⟨_, links_blockPage p.blocks (c.blockContext p) "/styles.css", fun link hlink hown => ?_⟩
    obtain ⟨hstyles, hicon, -⟩ := leadsTo_rootFiles hpaths
    rcases (c.blockContext p).eq_of_mem_headLinks hlink hown with rfl | rfl
    · exact .inl hstyles
    · exact .inl hicon
  | missing =>
    refine ⟨_, perm_flatMap_links (links_missingPage c.pageFrame), fun link hlink _ => ?_⟩
    rcases List.mem_append.mp hlink with hlink | hlink
    · exact hframe link hlink
    · rw [List.mem_singleton.mp hlink]
      exact s.leadsWithin_root
  | framed head contents =>
    have hlinks := PageShell.links_wrap c.pageFrame head contents
    refine ⟨c.pageFrame.pageLinks, ?_, fun link hlink _ => hframe link hlink⟩
    simpa [shell_nil_eq] using hlinks

end

/-! ### The files of pages -/

theorem isBlockPageFile_linkFile {f : SiteFile} {page : Markup} {others : List Markup}
    (h : c.HasBlockPage page others) (hf : f.content = page.text) (targets : List Link.Target) :
    c.IsBlockPageFile (Link.linkFile targets f) :=
  ⟨page, others, h, .inr ⟨targets, f, hf, rfl⟩⟩

theorem isBlockPageFile_of_mem_blockSite {files : List SiteFile} (h : c.blockSite = .ok files)
    {f : SiteFile} (hf : f ∈ files) (hhtml : Text.endsWith f.path ".html" = true) :
    c.IsBlockPageFile f := by
  rcases page_of_mem_complete h hf hhtml with hf | hf | ⟨_, _, hf⟩
  · obtain ⟨file, hfile, rfl⟩ := List.mem_map.mp hf
    obtain ⟨p, hp, rfl⟩ := List.mem_map.mp hfile
    have hcontent : (c.pageFile p).content =
        (blockPage p.blocks (c.blockContext p) "/styles.css").text := by
      rw [pageFile]
    exact isBlockPageFile_linkFile (.blocks hp) hcontent _
  · exact ⟨_, _, .missing, .inl hf⟩
  · exact ⟨_, _, .framed _ _, .inl hf⟩

/-- The page for what is missing is one of the files. -/
theorem exists_missingPage_of_site_eq_ok (hm : c.request.mode = .pages) {files : List SiteFile}
    (h : c.site = .ok files) :
    ∃ f ∈ files, f.path = "404.html" ∧ f.content = (missingPage (.build c.pageFrame)).text := by
  rw [site, hm] at h
  obtain ⟨others, rfl⟩ := exists_append_of_complete_eq_ok h
  have hfixed (stylesheet : String) :
      ⟨"404.html", (missingPage (c.shell [])).text, false⟩ ∈
        c.fixedFiles stylesheet (c.shell []) :=
    List.mem_cons_of_mem _ List.mem_cons_self
  exact ⟨_, List.mem_append_left _ (List.mem_append_right _ (hfixed _)), rfl, rfl⟩

/-- A site made of pages has no page for embedding. -/
theorem startsWith_embed_of_hasPath (hm : c.request.mode = .pages) {path : String}
    (h : c.HasPath path) : Text.startsWith path "embed/" = false := by
  have hfixed : ∀ path ∈ fixedPaths, Text.startsWith path "embed/" = false := by decide
  have htrust : ∀ path ∈ trustNames.map (· ++ "/index.html"),
      Text.startsWith path "embed/" = false := by
    decide
  have hother : c.request.mode ≠ .articles := fun ha => absurd (hm.symm.trans ha) (by decide)
  cases h with
  | home ha => exact absurd ha hother
  | article ha => exact absurd ha hother
  | embedded ha => exact absurd ha hother
  -- The name of the directory is reserved, so that no route leads below it.
  | page _ hp => exact Route.startsWith_embed_filePath (not_isReserved_of_mem_publishedPages hp)
  | fixed hpath => exact hfixed path hpath
  | @trust p hp =>
    have hpath : p.path ∈ c.keptTrust.map TrustPage.path := List.mem_map_of_mem hp
    exact htrust p.path ((map_path_trustPages_sublist _ _).mem hpath)
  | sitemap => decide

theorem notMem_paths_embed (hpaths : ∀ path, path ∈ s.paths → c.HasPath path)
    (hm : c.request.mode = .pages) (slug : String) : "embed/" ++ slug ++ ".html" ∉ s.paths := by
  intro hmem
  have hembed := startsWith_embed_of_hasPath hm (hpaths _ hmem)
  rw [Text.startsWith, ← Bool.not_eq_true, List.isPrefixOf_iff_prefix, String.toList_append,
    String.toList_append, List.append_assoc] at hembed
  exact hembed (List.prefix_append _ _)

end Compilation

variable {r : CompileRequest} {d : Domain} {portfolio : List String} {now : Timestamp}
  {s : CompiledSite}

/-- **Where the links of a site made of pages lead.**

* The site has a file for its start exactly if a page at the root is published.
* All links that its pages have of their own and that stay within the site lead to files, but for
  those to the root of a site without that file; and all HTML files are such pages.
* A block of a page that shows a page for embedding is a part of the page. The address in it is that
  of the page for embedding with its slug, and the site has no such file. -/
theorem compileSite_page_links_lead_to_files (hd : r.domain = some d)
    (h : compileSite r portfolio now = .ok s) (hm : r.mode = .pages) :
    ("index.html" ∈ s.paths ↔ ∃ q ∈ r.pages, q.route = "/" ∧ q.isPublished = true) ∧
      (∀ page others, (Compilation.ofRequest r d portfolio now).HasBlockPage page others →
        s.NavigatesWithin page others) ∧
      (∀ f ∈ s.files, Text.endsWith f.path ".html" = true →
        (Compilation.ofRequest r d portfolio now).IsBlockPageFile f) ∧
      ∀ p ∈ publishedPages r.pages, ∀ b ∈ p.blocks, ∀ slug,
        BlockKind.named? b.type = some .embedWidget → b.embeddedSlug? = some slug →
          ∀ ctx, b.wrapper ctx ∈ (BlockPage.ofBlocks ctx p.blocks).parts ∧
            frameSources (b.wrapper ctx).text = ["/embed/" ++ slug ++ ".html"] ∧
            "embed/" ++ slug ++ ".html" ∉ s.paths := by
  have hpaths (path : String) :
      path ∈ s.paths ↔ (Compilation.ofRequest r d portfolio now).HasPath path :=
    mem_paths_iff_hasPath hd h
  have hmode : (Compilation.ofRequest r d portfolio now).request.mode = .pages := hm
  refine ⟨?_, fun _ _ hpage => hpage.navigatesWithin fun path => (hpaths path).mpr, ?_, ?_⟩
  · rw [hpaths, Compilation.hasPath_index_iff, hmode]
    simp [Compilation.ofRequest]
  -- Each file is one of these pages as it was made, or as the links to other pages leave it.
  · obtain ⟨d', files, hd', hfiles, rfl⟩ := compileSite_eq_ok_iff.mp h
    obtain rfl : d = d' := Option.some.inj (hd.symm.trans hd')
    rw [Compilation.site, hmode] at hfiles
    exact fun _ => Compilation.isBlockPageFile_of_mem_blockSite hfiles
  · intro p _ b hb slug hkind hslug ctx
    exact ⟨BlockPage.wrapper_mem_parts hb (Block.place_of_embedWidget hkind),
      Block.frameSources_wrapper hkind hslug ctx,
      Compilation.notMem_paths_embed (fun path => (hpaths path).mp) hmode slug⟩

/-- A block that shows a page for embedding. -/
def loanWidget : Block := bareBlock "EmbedWidget" [("slug", .str "loan")]

/-- A request for a site of one page, at a route, that shows a page for embedding. -/
def widgetRequest (route : String) : CompileRequest :=
  { bareRequest with pages := [{ barePage route with blocks := [loanWidget] }] }

/-- A site whose start shows a page for embedding. -/
theorem widgetRequest_start_links_lead_to_files :
    ∃ s, compileSite (widgetRequest "/") [] bareTime = .ok s ∧ "index.html" ∈ s.paths ∧
      (∀ page others,
        (Compilation.ofRequest (widgetRequest "/") bareDomain [] bareTime).HasBlockPage page
          others → s.NavigatesWithin page others) ∧
      ∀ ctx, frameSources (loanWidget.wrapper ctx).text = ["/embed/loan.html"] ∧
        "embed/loan.html" ∉ s.paths := by
  have hm : (widgetRequest "/").mode = .pages := by decide
  obtain ⟨s, h⟩ : ∃ s, compileSite (widgetRequest "/") [] bareTime = .ok s :=
    exists_compileSite_of_pages rfl rfl rfl
  obtain ⟨hindex, hpages, -, hwidgets⟩ := compileSite_page_links_lead_to_files rfl h hm
  have hstart : { barePage "/" with blocks := [loanWidget] } ∈
      publishedPages (widgetRequest "/").pages := List.mem_cons_self
  have hwidget := hwidgets _ hstart loanWidget List.mem_cons_self "loan" rfl rfl
  exact ⟨s, h, hindex.mpr ⟨_, List.mem_cons_self, rfl, rfl⟩, hpages, fun ctx => (hwidget ctx).2⟩

/-- **Not all links that a site constructs lead to files.** Without a page at the root, the page for
what is missing leads back to a start that is not there; and a page for embedding that a block shows
is not made. -/
theorem widgetRequest_about_links_lead_nowhere :
    ∃ s, compileSite (widgetRequest "/about") [] bareTime = .ok s ∧
      (widgetRequest "/about").mode = .pages ∧
      ((∃ f ∈ s.files, f.path = "404.html" ∧ "/" ∈ pageLinks f.content.toList) ∧
        "index.html" ∉ s.paths) ∧
      ∃ p ∈ publishedPages (widgetRequest "/about").pages, loanWidget ∈ p.blocks ∧
        ∀ ctx, frameSources (loanWidget.wrapper ctx).text = ["/embed/loan.html"] ∧
          "embed/loan.html" ∉ s.paths := by
  have hm : (widgetRequest "/about").mode = .pages := by decide
  obtain ⟨s, h⟩ : ∃ s, compileSite (widgetRequest "/about") [] bareTime = .ok s :=
    exists_compileSite_of_pages rfl rfl rfl
  have hpaths (path : String) : path ∈ s.paths ↔
      (Compilation.ofRequest (widgetRequest "/about") bareDomain [] bareTime).HasPath path :=
    mem_paths_iff_hasPath rfl h
  have hnone : ¬ ∃ q ∈ (widgetRequest "/about").pages, q.route = "/" ∧ q.isPublished = true := by
    decide
  have hslug : loanWidget.embeddedSlug? = some "loan" := by decide
  have hpage : { barePage "/about" with blocks := [loanWidget] } ∈
      publishedPages (widgetRequest "/about").pages := List.mem_cons_self
  refine ⟨s, h, hm, ⟨?_, ?_⟩, _, hpage, List.mem_cons_self,
    fun ctx => ⟨Block.frameSources_wrapper rfl hslug ctx, ?_⟩⟩
  -- The page for what is missing is made in any case, and leads back to the root.
  · obtain ⟨d, files, hd, hfiles, rfl⟩ := compileSite_eq_ok_iff.mp h
    cases hd
    obtain ⟨f, hf, hpath, hcontent⟩ := Compilation.exists_missingPage_of_site_eq_ok hm hfiles
    refine ⟨f, hf, hpath, ?_⟩
    rw [hcontent]
    exact Compilation.root_mem_links_missingPage _
  · rw [hpaths, Compilation.hasPath_index_iff]
    rintro (ha | hstart)
    · exact absurd (hm.symm.trans ha) (by decide)
    · exact hnone hstart
  · exact Compilation.notMem_paths_embed (fun path => (hpaths path).mp) hm "loan"

end StaticSite
