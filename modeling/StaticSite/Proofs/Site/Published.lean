import StaticSite.Proofs.Site.Files
import StaticSite.Proofs.Site.Selection

/-!
# Unpublished content leaves no trace

A request holds more records than its site shows: drafts, deleted articles, records whose slug or
route is not safe or already taken, evidence for articles that are not there, and all articles of a
site that is made of pages. None of them has any influence on the site.

## The published part of a request

`CompileRequest.published` cuts a request down to what is published. `compileSite_published` says
that the site stays the same, whether it can be compiled or not. Two requests that agree on what is
published (`CompileRequest.SamePublished`) have the same published part, and therefore the same site
(`SamePublished.published_eq`).

That the site stays the same has three reasons:

* the mode is that of the published pages (`mode_published`);
* a second selection of published records changes nothing, so that a compilation of the published
  part goes over the same articles and pages;
* evidence is looked up under the identifiers of published articles only
  (`getD_lookup_evidenceFor`).

All else that a compilation reads is left as it is, so that the files agree by computation.
-/

namespace StaticSite

/-! ### Evidence for articles -/

section Evidence

variable {α : Type} {evidence : List (String × List α)} {articles : List Article}

/-- The evidence for some articles, under their identifiers. -/
def evidenceFor (articles : List Article) (evidence : List (String × List α)) :
    List (String × List α) :=
  articles.map fun a => (a.id, (evidence.lookup a.id).getD [])

/-- The evidence for one of the articles is what it was. Articles may share an identifier: what is
found for the first of them is found for all. -/
theorem getD_lookup_evidenceFor {a : Article} (ha : a ∈ articles) :
    ((evidenceFor articles evidence).lookup a.id).getD [] = (evidence.lookup a.id).getD [] := by
  induction articles with
  | nil => exact absurd ha List.not_mem_nil
  | cons b rest ih =>
    rw [evidenceFor, List.map_cons, List.lookup_cons]
    by_cases hid : a.id = b.id
    · rw [hid, beq_self_eq_true]
      rfl
    · have hab : a ≠ b := fun h => hid (congrArg Article.id h)
      rw [beq_false_of_ne hid]
      exact ih (List.mem_of_ne_of_mem hab ha)

/-- Only what is looked up for the articles counts. -/
theorem evidenceFor_congr {other : List (String × List α)}
    (h : ∀ a ∈ articles, (evidence.lookup a.id).getD [] = (other.lookup a.id).getD []) :
    evidenceFor articles evidence = evidenceFor articles other :=
  List.map_congr_left fun a ha => congrArg (Prod.mk a.id) (h a ha)

end Evidence

/-! ### The published part -/

namespace CompileRequest

variable {r s : CompileRequest}

/-- The mode is that of the published pages. -/
theorem mode_eq_of_publishedPages_eq (h : publishedPages r.pages = publishedPages s.pages) :
    r.mode = s.mode := by
  cases hs : s.mode with
  | articles => exact (mode_eq_articles_iff r).mpr (h.trans ((mode_eq_articles_iff s).mp hs))
  | pages =>
    rw [mode_eq_pages_iff, h]
    exact (mode_eq_pages_iff s).mp hs

/-- The articles that a site shows: the published ones, unless it is made of pages. -/
def shownArticles (r : CompileRequest) : List Article :=
  match r.mode with
  | .articles => liveArticles r.articles
  | .pages => []

theorem shownArticles_of_articles (hm : r.mode = .articles) :
    r.shownArticles = liveArticles r.articles := by
  rw [shownArticles, hm]

theorem shownArticles_of_pages (hm : r.mode = .pages) : r.shownArticles = [] := by
  rw [shownArticles, hm]

/-- **The published part of a request**: the published pages, the articles that are shown, and the
evidence for these. -/
def published (r : CompileRequest) : CompileRequest :=
  { r with
    articles := r.shownArticles
    pages := publishedPages r.pages
    datasets := evidenceFor r.shownArticles r.datasets
    citations := evidenceFor r.shownArticles r.citations }

theorem mode_published (r : CompileRequest) : r.published.mode = r.mode :=
  mode_eq_of_publishedPages_eq (publishedPages_publishedPages r.pages)

/-- **Two requests agree on what is published.** They have the same domain, disclosure, scripts and
portfolio, and publish the same pages. If these are none, they publish the same articles, with the
same evidence. -/
structure SamePublished (r s : CompileRequest) : Prop where
  domain : r.domain = s.domain
  disclosure : r.disclosure = s.disclosure
  monetization : r.monetization = s.monetization
  portfolioHostnames : r.portfolioHostnames = s.portfolioHostnames
  pages : publishedPages r.pages = publishedPages s.pages
  articles : publishedPages r.pages = [] → liveArticles r.articles = liveArticles s.articles
  datasets : publishedPages r.pages = [] → ∀ a ∈ liveArticles r.articles,
    (r.datasets.lookup a.id).getD [] = (s.datasets.lookup a.id).getD []
  citations : publishedPages r.pages = [] → ∀ a ∈ liveArticles r.articles,
    (r.citations.lookup a.id).getD [] = (s.citations.lookup a.id).getD []

namespace SamePublished

theorem shownArticles_eq (h : SamePublished r s) : r.shownArticles = s.shownArticles := by
  have hmode := mode_eq_of_publishedPages_eq h.pages
  cases hm : r.mode with
  | articles =>
    rw [shownArticles_of_articles hm, shownArticles_of_articles (hmode ▸ hm)]
    exact h.articles ((mode_eq_articles_iff r).mp hm)
  | pages => rw [shownArticles_of_pages hm, shownArticles_of_pages (hmode ▸ hm)]

/-- Evidence that agrees on the published articles of a site without pages agrees on the articles
that are shown. -/
theorem evidenceFor_shownArticles_eq {α : Type} {xs ys : List (String × List α)}
    (h : publishedPages r.pages = [] → ∀ a ∈ liveArticles r.articles,
      (xs.lookup a.id).getD [] = (ys.lookup a.id).getD []) :
    evidenceFor r.shownArticles xs = evidenceFor r.shownArticles ys := by
  cases hm : r.mode with
  | articles =>
    rw [shownArticles_of_articles hm]
    exact evidenceFor_congr (h ((mode_eq_articles_iff r).mp hm))
  | pages =>
    -- No article is shown, so that nothing is known of the evidence and nothing is needed.
    rw [shownArticles_of_pages hm]
    rfl

/-- Requests that agree on what is published have the same published part. -/
theorem published_eq (h : SamePublished r s) : r.published = s.published := by
  unfold published
  rw [evidenceFor_shownArticles_eq h.datasets, evidenceFor_shownArticles_eq h.citations,
    h.shownArticles_eq, h.pages, h.domain, h.disclosure, h.monetization, h.portfolioHostnames]

end SamePublished

end CompileRequest

/-! ### The site of the published part -/

namespace Compilation

/-- The compilation of the published part of a request. -/
def publishedPart (c : Compilation) : Compilation := { c with request := c.request.published }

variable {c : Compilation}

theorem pages_publishedPart (c : Compilation) : c.publishedPart.pages = c.pages :=
  publishedPages_publishedPages c.request.pages

theorem articles_publishedPart (hm : c.request.mode = .articles) :
    c.publishedPart.articles = c.articles := by
  show liveArticles c.request.shownArticles = liveArticles c.request.articles
  rw [CompileRequest.shownArticles_of_articles hm, liveArticles_liveArticles]

/-- The files of a site made of pages read no other records than these pages. -/
theorem blockSite_publishedPart (c : Compilation) : c.publishedPart.blockSite = c.blockSite := by
  have happearance : c.publishedPart.appearance = c.appearance := by
    unfold appearance home?
    rw [pages_publishedPart]
    rfl
  have hfile : c.publishedPart.pageFile = c.pageFile := by
    unfold pageFile blockContext
    rw [happearance]
    rfl
  have hentries : c.publishedPart.pageEntries = c.pageEntries := by
    unfold pageEntries
    rw [pages_publishedPart]
    rfl
  unfold blockSite
  rw [pages_publishedPart, happearance, hfile, hentries]
  rfl

/-- The page of an article that is shown finds the same links and the same evidence. -/
theorem articleContext_publishedPart (hm : c.request.mode = .articles) {a : Article}
    (ha : a ∈ c.articles) : c.publishedPart.articleContext a = c.articleContext a := by
  have hshown : a ∈ c.request.shownArticles := by
    rw [CompileRequest.shownArticles_of_articles hm]
    exact ha
  have hdatasets : (c.publishedPart.request.datasets.lookup a.id).getD [] =
      (c.request.datasets.lookup a.id).getD [] := getD_lookup_evidenceFor hshown
  have hcitations : (c.publishedPart.request.citations.lookup a.id).getD [] =
      (c.request.citations.lookup a.id).getD [] := getD_lookup_evidenceFor hshown
  -- The rest of the context reads fields that both requests share.
  unfold articleContext articleShell articleLinks
  rw [hdatasets, hcitations, articles_publishedPart hm]
  rfl

/-- The files of a site made of articles read no other records than these articles and the evidence
for them. -/
theorem articleSite_publishedPart (hm : c.request.mode = .articles) :
    c.publishedPart.articleSite = c.articleSite := by
  have hlinks : c.publishedPart.articleLinks = c.articleLinks := by
    unfold articleLinks
    rw [articles_publishedPart hm]
  have hshell : c.publishedPart.articleShell = c.articleShell := by
    unfold articleShell
    rw [hlinks]
    rfl
  have hhome : c.publishedPart.homeFile = c.homeFile := by
    unfold homeFile
    rw [hlinks, hshell]
    rfl
  have hentries : c.publishedPart.articleEntries = c.articleEntries := by
    unfold articleEntries
    rw [articles_publishedPart hm]
    rfl
  have hpages : c.articles.mapM c.publishedPart.articleFile = c.articles.mapM c.articleFile := by
    refine mapM_congr_of_mem fun a ha => ?_
    unfold articleFile
    rw [articleContext_publishedPart hm ha]
  -- These are all the parts that are made from articles; the others do not read the records.
  unfold articleSite
  rw [articles_publishedPart hm, hpages, hhome, hentries, hshell]
  rfl

theorem site_publishedPart (c : Compilation) : c.publishedPart.site = c.site := by
  have hmode : c.publishedPart.request.mode = c.request.mode :=
    CompileRequest.mode_published c.request
  unfold site
  rw [hmode]
  cases hm : c.request.mode with
  | articles => exact articleSite_publishedPart hm
  | pages => exact blockSite_publishedPart c

end Compilation

/-! ### Sites -/

/-- **The published part of a request has the same site**, or the same reason for having none. -/
theorem compileSite_published (r : CompileRequest) (portfolio : List String) (now : Timestamp) :
    compileSite r.published portfolio now = compileSite r portfolio now := by
  cases hd : r.domain with
  | none =>
    unfold compileSite
    rw [hd, show r.published.domain = none from hd]
  | some d =>
    have hsite : (Compilation.ofRequest r.published d portfolio now).site =
        (Compilation.ofRequest r d portfolio now).site :=
      Compilation.site_publishedPart (Compilation.ofRequest r d portfolio now)
    rw [compileSite_eq_of_domain hd, compileSite_eq_of_domain (show r.published.domain = _ from hd),
      hsite, CompileRequest.mode_published]

section

variable {τ : Type} [Sub τ] [LT τ] [DecidableLT τ]

/-- **Unpublished content leaves no trace.**

* A site is made of pages exactly if some page is published.
* Requests that agree on what is published have the same site, whichever hosts are blocked, and
  leave a cache of hosts in the same state.
* In particular all that is not published may be left out of a request. -/
theorem unpublished_leaves_no_trace :
    (∀ r : CompileRequest, r.mode = .pages ↔ publishedPages r.pages ≠ []) ∧
      (∀ r s : CompileRequest, r.SamePublished s →
        (∀ portfolio now, compileSite r portfolio now = compileSite s portfolio now) ∧
          ∀ (cache : PortfolioCache τ) clock now,
            compileCached cache clock r now = compileCached cache clock s now) ∧
      ∀ (r : CompileRequest) portfolio now,
        compileSite r.published portfolio now = compileSite r portfolio now := by
  -- Both requests have the same site as what is published of them, which is the same.
  refine ⟨CompileRequest.mode_eq_pages_iff, fun r s h => ?_, compileSite_published⟩
  have hsite : ∀ portfolio now, compileSite r portfolio now = compileSite s portfolio now := by
    intro portfolio now
    rw [← compileSite_published r, h.published_eq, compileSite_published s]
  refine ⟨hsite, fun cache clock now => ?_⟩
  have hportfolio : r.portfolio cache clock = s.portfolio cache clock := by
    unfold CompileRequest.portfolio
    rw [h.portfolioHostnames]
  unfold compileCached
  rw [hportfolio]
  show (compileSite r _ now, _) = (compileSite s _ now, _)
  rw [hsite]

end

/-- A request for a site of one article, with a draft, a copy of the article, and a dataset for the
draft. -/
def draftRequest : CompileRequest :=
  { bareRequest with
    articles := [bareWizard "guide", { bareWizard "plans" with status := .draft },
      { bareWizard "guide" with title := "Another guide" }]
    datasets :=
      [("plans",
        [{ id := "source"
           name := "A source"
           sourceUrl := none
           sourceTitle := none
           publisher := none
           retrievedAt := none
           expiresAt := none
           usage := none }])] }

theorem draftRequest_leaves_no_trace :
    draftRequest.SamePublished { bareRequest with articles := [bareWizard "guide"] } ∧
      compileSite draftRequest [] bareTime =
        compileSite { bareRequest with articles := [bareWizard "guide"] } [] bareTime := by
  have hsame :
      draftRequest.SamePublished { bareRequest with articles := [bareWizard "guide"] } := by
    have harticles : liveArticles draftRequest.articles = [bareWizard "guide"] := rfl
    refine ⟨rfl, rfl, rfl, rfl, rfl, fun _ => rfl, fun _ a ha => ?_, fun _ _ _ => rfl⟩
    rw [harticles, List.mem_singleton] at ha
    rw [ha]
    rfl
  exact ⟨hsame, ((@unpublished_leaves_no_trace Nat _ _ _).2.1 _ _ hsame).1 [] bareTime⟩

end StaticSite
