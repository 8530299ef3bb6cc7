import StaticSite.Site.ArticleSite
import StaticSite.Site.BlockSite

/-!
# Compiling a site

`compileSite` makes all files of a site, or none: it fails if the request names no domain or if a
page cannot be made. The hosts of the portfolio to which links are blocked may come from a cache.

* `CompileRequest.portfolio` are the hosts of a request, and the cache after they were looked up.
* `CompiledSite.manifest` lists the files of a site.
-/

namespace StaticSite

/-- All files of a site. -/
structure CompiledSite where
  domain : String
  mode : SiteMode
  files : List SiteFile
deriving Repr

/-- Why a site cannot be compiled. -/
inductive CompileError where
  | domainMissing
  | page (e : PageError)
deriving Repr

/-- The text for a request without a domain. -/
def CompileError.domainMissingText : String := "Domain not found"

/-- The number of files of a site. -/
def CompiledSite.fileCount (s : CompiledSite) : Nat := s.files.length

/-- The members that describe a site, before its files. -/
def CompiledSite.summary (s : CompiledSite) : List (String × Json) :=
  [("domain", .str s.domain), ("mode", .str s.mode.word), ("file_count", .int s.fileCount)]

/-- The list of the files of a site. -/
def CompiledSite.manifest (s : CompiledSite) : Json :=
  .obj (s.summary ++ [("files", .arr (s.files.map fun f => .str f.path))])

/-- Makes all files of a site, with links to the hosts of a portfolio blocked. -/
def compileSite (r : CompileRequest) (portfolio : List String) (now : Timestamp) :
    Except CompileError CompiledSite := do
  match r.domain with
  | none => throw .domainMissing
  | some domain =>
    let c : Compilation :=
      { request := r, domain, policy := .ofDomain domain.domain portfolio, now }
    let files ← match r.mode with
      | .pages => c.blockSite.mapError .page
      | .articles => c.articleSite.mapError .page
    return { domain := domain.domain, mode := r.mode, files }

/-- A cache of the hosts of portfolios, under the lists they were given by. -/
abbrev PortfolioCache (τ : Type) := Link.HostCache (List String) τ

section

variable {τ : Type} [Sub τ] [LT τ] [DecidableLT τ]

/-- The hosts of the portfolio of a request. A request without a portfolio leaves the cache
alone. -/
def CompileRequest.portfolio (r : CompileRequest) (cache : PortfolioCache τ) (clock : τ) :
    List String × PortfolioCache τ :=
  if r.portfolioHostnames.isEmpty then ([], cache)
  else cache.get clock r.portfolioHostnames (some r.portfolioHostnames)

/-- Makes all files of a site, with the hosts of the portfolio from a cache. -/
def compileCached (cache : PortfolioCache τ) (clock : τ) (r : CompileRequest) (now : Timestamp) :
    Except CompileError CompiledSite × PortfolioCache τ :=
  let (portfolio, cache) := r.portfolio cache clock
  (compileSite r portfolio now, cache)

end

end StaticSite
