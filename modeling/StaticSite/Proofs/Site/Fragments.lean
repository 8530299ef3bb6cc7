import StaticSite.Proofs.Page.Fragments
import StaticSite.Proofs.Site.Linking
import StaticSite.Proofs.Site.Navigation

/-!
# The fragments of a provider on the pages of a site

A site takes the fragments of a provider of advertisements from its request, and puts them into
every page as they are: into the pages in its frame, and into those made of blocks. Then the linking
pass goes over some of the pages, and searches the fragments with them.

`compileSite_pages_hold_fragments` says which pages hold a fragment as it was supplied: all of them
when they are made, those that are not linked, and those of which the other pages spare the fragment
(`Compilation.OthersSpare`). A fragment without paragraphs and list items is always spared, and one
that mentions no other page is spared by all keywords that are no markup themselves.

A fragment that mentions another page need not be kept: the mention becomes a link
(`adRequest_ratesAd_loses_fragment`).
-/

namespace StaticSite

open Link (StandsApart)

/-- The fragments of a provider, for the head of a page and for its end. -/
def Monetization.fragments (m : Monetization) : List String := [m.head, m.body]

namespace Compilation

variable (c : Compilation) {m : Monetization}

/-- **The other pages of a site spare a fragment** on the page that a file holds. -/
def OthersSpare (path fragment : String) : Prop :=
  ∀ t ∈ c.targets, Route.filePath t.route ≠ path → t.keywords.Spares fragment.toList

instance (path fragment : String) : Decidable (c.OthersSpare path fragment) :=
  inferInstanceAs (Decidable (∀ t ∈ c.targets, _ → _))

/-! ### Pages as they are made -/

theorem content_pageFile (p : Page) : (c.pageFile p).content =
    (blockPage p.blocks (c.blockContext p) "/styles.css").text := by rw [pageFile]

section

variable (hm : c.request.monetization = some m)
include hm

theorem scripts_shell (links : List NavLink) :
    [(c.shell links).headScripts, (c.shell links).bodyScripts] = m.fragments.map html := by
  unfold shell PageShell.build
  rw [hm]
  rfl

theorem scripts_blockContext (p : Page) :
    [(c.blockContext p).headScripts, (c.blockContext p).bodyScripts] = m.fragments.map html := by
  unfold blockContext
  rw [hm]
  rfl

variable {fragment : String} (hfragment : fragment ∈ m.fragments)
include hfragment

/-- **Every page in the frame holds the fragments.** -/
theorem isInfix_wrap_shell (links : List NavLink) (head : PageShell.PageHead) (contents : Markup) :
    fragment.toList <:+: ((c.shell links).wrap head contents).text.toList := by
  have hpage := (c.shell links).isInfix_wrap head contents
  rw [c.scripts_shell hm, List.forall_mem_map] at hpage
  exact hpage fragment hfragment

theorem standsApart_articleFile {a : Article} {f : SiteFile} (h : c.articleFile a = .ok f) :
    StandsApart fragment.toList f.content.toList := by
  obtain ⟨page, hpage, h⟩ := exists_of_bind_eq_ok h
  cases h
  have hscripts := standsApart_articlePage (f := c.articleFrame) rfl hpage
  rw [← articleShell_eq, articleShell, c.scripts_shell hm, List.forall_mem_map] at hscripts
  exact hscripts fragment hfragment

theorem standsApart_pageFile (p : Page) :
    StandsApart fragment.toList (c.pageFile p).content.toList := by
  have hpage := standsApart_blockPage p.blocks (c.blockContext p) "/styles.css"
  rw [c.scripts_blockContext hm, List.forall_mem_map] at hpage
  rw [content_pageFile]
  exact hpage fragment hfragment

/-- **The pages hold the fragments before they are linked.** -/
theorem isInfix_of_mem_drafts {drafts : List SiteFile} (h : c.drafts = .ok drafts) {f : SiteFile}
    (hf : f ∈ drafts) : fragment.toList <:+: f.content.toList := by
  unfold Compilation.drafts at h
  cases hmode : c.request.mode with
  | articles =>
    rw [hmode] at h
    obtain ⟨pages, hpages, h⟩ := exists_of_bind_eq_ok h
    cases h
    rcases List.mem_cons.mp hf with rfl | hf
    · exact c.isInfix_wrap_shell hm hfragment _ _ _
    · obtain ⟨a, -, ha⟩ := exists_of_mem_of_mapM_eq_ok hpages hf
      exact (c.standsApart_articleFile hm hfragment ha).isInfix
  | pages =>
    rw [hmode] at h
    cases h
    obtain ⟨p, -, rfl⟩ := List.mem_map.mp hf
    exact (c.standsApart_pageFile hm hfragment p).isInfix

end

/-! ### Pages as they are linked -/

variable {c}

/-- **Linking keeps a fragment that the other pages spare.** -/
theorem isInfix_linkFile {f : SiteFile} {fragment : String}
    (h : StandsApart fragment.toList f.content.toList)
    (hspares : f.path ∈ c.request.pagePaths → c.OthersSpare f.path fragment) :
    fragment.toList <:+: (Link.linkFile c.targets f).content.toList := by
  by_cases hpath : f.path ∈ c.request.pagePaths
  · have hroute {t : Link.Target} (ht : t ∈ c.targets) : t.route ∈ c.request.pageRoutes :=
      c.map_route_targets ▸ List.mem_map_of_mem ht
    refine (h.linkFile fun current hcurrent t ht hne => hspares hpath t ht ?_).isInfix
    -- The file is that of the page it holds, and so of no other target.
    obtain ⟨own, hown, rfl, hfile⟩ := Link.exists_target_of_routeOf? hcurrent
    rw [← hfile]
    exact filePath_ne_of_ne (hroute ht) (hroute hown) hne
  · rw [linkFile_targets_eq_self hpath]
    exact h.isInfix

section

variable (hm : c.request.monetization = some m) {fragment : String}
  (hfragment : fragment ∈ m.fragments)
include hm hfragment

/-- A page that completes a site holds the fragments. -/
theorem isInfix_of_complete {links : List NavLink} {f : SiteFile}
    (h : f.content = (missingPage (c.shell links)).text ∨
      ∃ head text, f.content = ((c.shell links).wrap head text).text) :
    fragment.toList <:+: f.content.toList := by
  rcases h with h | ⟨head, text, h⟩
  · rw [h]
    exact c.isInfix_wrap_shell hm hfragment links _ _
  · rw [h]
    exact c.isInfix_wrap_shell hm hfragment links head text

theorem isInfix_of_mem_articleSite (hmode : c.request.mode = .articles) {files : List SiteFile}
    (h : c.articleSite = .ok files) {f : SiteFile} (hf : f ∈ files)
    (hhtml : Text.endsWith f.path ".html" = true)
    (hembed : Text.startsWith f.path "embed/" = false)
    (hspares : f.path ∈ c.request.pagePaths → c.OthersSpare f.path fragment) :
    fragment.toList <:+: f.content.toList := by
  have htargets : (c.articles.map fun a => (⟨a.route, a.title⟩ : Link.Target)) = c.targets := by
    rw [targets, hmode]
  obtain ⟨pages, hpages, h⟩ := exists_of_bind_eq_ok h
  -- A page is the index, an article, one for embedding, or one that every site has.
  rcases page_of_mem_complete h hf hhtml with hf | hf
  · rcases List.mem_append.mp hf with hf | hf
    · obtain ⟨file, hfile, rfl⟩ := List.mem_map.mp hf
      rw [htargets] at hspares ⊢
      rcases List.mem_cons.mp hfile with rfl | hfile
      · rw [linkFile_targets_eq_self (c.index_notMem_pagePaths hmode)]
        exact c.isInfix_wrap_shell hm hfragment _ _ _
      · obtain ⟨a, -, ha⟩ := exists_of_mem_of_mapM_eq_ok hpages hfile
        rw [Link.path_linkFile] at hspares
        exact isInfix_linkFile (c.standsApart_articleFile hm hfragment ha) hspares
    · have hpath : f.path ∈ (c.articles.filterMap c.embedFile?).map (·.path) :=
        List.mem_map_of_mem hf
      rw [map_path_filterMap_embedFile?] at hpath
      obtain ⟨a, -, ha⟩ := List.mem_map.mp hpath
      rw [← ha, startsWith_embed_embedPath] at hembed
      cases hembed
  · exact isInfix_of_complete hm hfragment hf

theorem isInfix_of_mem_blockSite (hmode : c.request.mode = .pages) {files : List SiteFile}
    (h : c.blockSite = .ok files) {f : SiteFile} (hf : f ∈ files)
    (hhtml : Text.endsWith f.path ".html" = true)
    (hspares : f.path ∈ c.request.pagePaths → c.OthersSpare f.path fragment) :
    fragment.toList <:+: f.content.toList := by
  have htargets : (c.pages.map fun p => (⟨p.route, p.title.getD ""⟩ : Link.Target)) =
      c.targets := by
    rw [targets, hmode]
  rcases page_of_mem_complete h hf hhtml with hf | hf
  · obtain ⟨file, hfile, rfl⟩ := List.mem_map.mp hf
    obtain ⟨p, -, rfl⟩ := List.mem_map.mp hfile
    rw [htargets] at hspares ⊢
    rw [Link.path_linkFile] at hspares
    exact isInfix_linkFile (c.standsApart_pageFile hm hfragment p) hspares
  · exact isInfix_of_complete hm hfragment hf

end

end Compilation

variable {r : CompileRequest} {d : Domain} {m : Monetization} {portfolio : List String}
  {now : Timestamp} {s : CompiledSite}

/-- **The pages of a site hold the fragments of a provider as they were supplied.**

* All pages that are linked later hold both fragments when they are made.
* All HTML files of the site hold both, but for those for embedding, and for a fragment on the page
  of an article or on one made of blocks that the other pages do not spare. -/
theorem compileSite_pages_hold_fragments (hd : r.domain = some d) (hm : r.monetization = some m)
    (h : compileSite r portfolio now = .ok s) :
    (∃ drafts, (Compilation.ofRequest r d portfolio now).drafts = .ok drafts ∧
        ∀ f ∈ drafts, ∀ fragment ∈ m.fragments, fragment.toList <:+: f.content.toList) ∧
      ∀ f ∈ s.files, Text.endsWith f.path ".html" = true →
        (r.mode = .articles → Text.startsWith f.path "embed/" = false) →
          ∀ fragment ∈ m.fragments,
            (f.path ∈ r.pagePaths →
              (Compilation.ofRequest r d portfolio now).OthersSpare f.path fragment) →
              fragment.toList <:+: f.content.toList := by
  obtain ⟨d', files, hd', hfiles, rfl⟩ := compileSite_eq_ok_iff.mp h
  obtain rfl : d = d' := Option.some.inj (hd.symm.trans hd')
  constructor
  · obtain ⟨drafts, -, hdrafts, -⟩ := Compilation.exists_drafts_of_site_eq_ok hfiles
    exact ⟨drafts, hdrafts, fun f hf fragment hfragment =>
      Compilation.isInfix_of_mem_drafts _ hm hfragment hdrafts hf⟩
  · intro f hf hhtml hembed fragment hfragment hspares
    have hrequest : (Compilation.ofRequest r d portfolio now).request.mode = r.mode := rfl
    unfold Compilation.site at hfiles
    cases hmode : r.mode with
    | articles =>
      rw [hrequest, hmode] at hfiles
      exact Compilation.isInfix_of_mem_articleSite hm hfragment hmode hfiles hf hhtml
        (hembed hmode) hspares
    | pages =>
      rw [hrequest, hmode] at hfiles
      exact Compilation.isInfix_of_mem_blockSite hm hfragment hmode hfiles hf hhtml hspares

/-- A request for a site of two pages, one with a title, and the fragments of a provider. -/
def adRequest (m : Monetization) : CompileRequest :=
  { bareRequest with
    pages := [barePage "/", { barePage "/rates" with title := some "Mortgage rates" }]
    monetization := some m }

/-- A script and a paragraph that mentions no other page. -/
def plainAd : Monetization := ⟨"<script src=\"ads.js\"></script>", "<p>Compare offers</p>"⟩

theorem adRequest_plainAd_pages_hold_fragments :
    ∃ s, compileSite (adRequest plainAd) [] bareTime = .ok s ∧
      ∃ f ∈ s.files, f.path = "index.html" ∧
        ∀ fragment ∈ plainAd.fragments, fragment.toList <:+: f.content.toList := by
  obtain ⟨s, h⟩ : ∃ s, compileSite (adRequest plainAd) [] bareTime = .ok s :=
    exists_compileSite_of_pages rfl rfl rfl
  have hmode : (adRequest plainAd).mode = .pages := by decide
  have hindex : "index.html" ∈ s.paths :=
    (mem_paths_iff_hasPath rfl h).mpr (.page hmode (p := barePage "/") List.mem_cons_self)
  obtain ⟨f, hf, hpath⟩ := List.mem_map.mp hindex
  have hspares : ∀ fragment ∈ plainAd.fragments,
      (Compilation.ofRequest (adRequest plainAd) bareDomain [] bareTime).OthersSpare "index.html"
        fragment := by
    decide +kernel
  -- The page at the root is one that the others spare.
  refine ⟨s, h, f, hf, hpath, fun fragment hfragment => ?_⟩
  refine (compileSite_pages_hold_fragments rfl rfl h).2 f hf ?_ ?_ fragment hfragment fun _ => ?_
  · rw [hpath]
    decide
  · exact fun ha => absurd (hmode.symm.trans ha) (by decide)
  · rw [hpath]
    exact hspares fragment hfragment

/-- A paragraph that mentions the other page. -/
def ratesAd : Monetization := ⟨"", "<p>Compare mortgage rates</p>"⟩

/-- Of the page at the root of that site, only the end is linked. -/
theorem exists_toList_linkFile_ratesAd {c : Compilation}
    (hc : c = .ofRequest (adRequest ratesAd) bareDomain [] bareTime) :
    ∃ lead, Link.OpensNoItem lead ∧
      (Link.linkFile c.targets (c.pageFile (barePage "/"))).content.toList =
        lead ++ Link.injectFrom "/" (c.targets.map Link.Target.keywords) []
          "<p>Compare mortgage rates</p>\n</body>\n</html>\n".toList := by
  obtain ⟨lead, hlead, hpage⟩ := exists_toList_blockPage (barePage "/").blocks
    (c.blockContext (barePage "/")) "/styles.css" (hc ▸ by decide) (hc ▸ by decide)
  have hroute : Link.routeOf? c.targets (c.pageFile (barePage "/")).path = some "/" := by
    rw [hc, Compilation.pageFile]
    decide
  have hhtml : ((c.pageFile (barePage "/")).isBinary ||
      !Text.endsWith (c.pageFile (barePage "/")).path ".html") = false := by
    rw [hc, Compilation.pageFile]
    decide
  refine ⟨lead, hlead, ?_⟩
  rw [Link.toList_linkFile hhtml hroute, Compilation.content_pageFile, hpage,
    hlead.injectFrom_append, hc]
  rfl

/-- **Not every page of a site holds the fragments.** The start of this one mentions the page for
rates in the paragraph that was supplied, and the mention has become a link. -/
theorem adRequest_ratesAd_loses_fragment :
    ∃ s, compileSite (adRequest ratesAd) [] bareTime = .ok s ∧
      ∃ f ∈ s.files, f.path = "index.html" ∧ ¬ ratesAd.body.toList <:+: f.content.toList := by
  obtain ⟨s, h⟩ : ∃ s, compileSite (adRequest ratesAd) [] bareTime = .ok s :=
    exists_compileSite_of_pages rfl rfl rfl
  refine ⟨s, h, ?_⟩
  obtain ⟨d, files, hd, hfiles, rfl⟩ := compileSite_eq_ok_iff.mp h
  cases hd
  obtain ⟨drafts, others, hdrafts, rfl⟩ := Compilation.exists_drafts_of_site_eq_ok hfiles
  cases hdrafts
  have hstart : barePage "/" ∈
      (Compilation.ofRequest (adRequest ratesAd) bareDomain [] bareTime).pages :=
    List.mem_cons_self
  obtain ⟨lead, hlead, hlinked⟩ := exists_toList_linkFile_ratesAd rfl
  refine ⟨_, List.mem_append_left _ (List.mem_map_of_mem (List.mem_map_of_mem hstart)),
    Link.path_linkFile _ _, fun hoccurs => ?_⟩
  -- The paragraph would begin behind the lead, and there it has a link in it.
  rw [hlinked] at hoccurs
  have hrest := hlead.isInfix_of_isInfix_append (by decide) hoccurs
  exact absurd hrest (by decide +kernel)

end StaticSite
