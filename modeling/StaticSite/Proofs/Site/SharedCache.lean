import StaticSite.Proofs.Link.HostCache
import StaticSite.Site.Compile

/-!
# One cache for many sites

The hosts of portfolios come from a cache that outlives a request. Sharing it changes no site: a
site compiled with a cache that served any other requests before is the one that is compiled with a
cache of its own.

## The invariant

`HostCache.Holds load` says that the hosts in a cache are those that `load` gives for their key. It
is true of an empty cache, and every lookup that loads what `load` gives keeps it
(`HostCache.holds_get`). Under it a lookup gives the hosts of its own key, whether they come out of
the cache or not (`HostCache.fst_get_of_holds`), so that neither the clock nor what was looked up
before has any influence.

## Calls

While a site is compiled, each of its texts that has a link asks for the hosts, and the clock goes
on meanwhile. A `CompileCall` has the readings of the clock at which that happens, in any number and
order, and `CompileCall.sites` gives for each of them the site whose links are treated by what was
found then. For a site without links, on which the hosts have no influence, any one reading will do.
-/

namespace StaticSite

/-! ### Lookups -/

namespace Link.HostCache

variable {κ τ : Type} [BEq κ] [LawfulBEq κ] [Sub τ] [LT τ] [DecidableLT τ]
variable {load : κ → List String} {c : HostCache κ τ}

/-- **The hosts in a cache are those of their key.** -/
def Holds (load : κ → List String) (c : HostCache κ τ) : Prop :=
  ∀ e, c.entry = some e → e.hosts = normalizeHosts (load e.key)

omit [BEq κ] [LawfulBEq κ] [Sub τ] [LT τ] [DecidableLT τ] in
theorem holds_of_entry_eq_none (h : c.entry = none) : c.Holds load := by
  intro e he
  rw [h] at he
  cases he

/-- Hosts that are fresh for a key were loaded under this key. -/
theorem exists_entry_of_fresh?_eq_some {now : τ} {key : κ} {hosts : List String}
    (h : c.fresh? now key = some hosts) :
    ∃ e, c.entry = some e ∧ e.key = key ∧ e.hosts = hosts := by
  obtain ⟨e, he, ⟨-, hkey⟩, hhosts⟩ := fresh?_eq_some_iff.mp h
  exact ⟨e, he, (eq_of_beq hkey).symm, hhosts⟩

/-- **A lookup gives the hosts of its key**, from the cache or from the load. -/
theorem fst_get_of_holds (hc : c.Holds load) (now : τ) (key : κ) :
    (c.get now key (some (load key))).1 = normalizeHosts (load key) := by
  unfold get
  cases hfresh : c.fresh? now key with
  | none => rfl
  | some hosts =>
    -- What is fresh was loaded under this key, and the invariant says what was loaded.
    obtain ⟨e, he, hkey, hhosts⟩ := exists_entry_of_fresh?_eq_some hfresh
    show hosts = normalizeHosts (load key)
    rw [← hhosts, ← hkey]
    exact hc e he

omit [LawfulBEq κ] in
/-- A lookup leaves hosts of their key in the cache. -/
theorem holds_get (hc : c.Holds load) (now : τ) (key : κ) :
    (c.get now key (some (load key))).2.Holds load := by
  unfold get
  cases c.fresh? now key with
  | none =>
    intro e he
    rw [← Option.some.inj he]
  | some hosts => exact hc

end Link.HostCache

/-! ### The hosts of a request -/

open Link (normalizeHosts)

variable {τ : Type} [Sub τ] [LT τ] [DecidableLT τ]
variable {cache : PortfolioCache τ}

namespace CompileRequest

/-- The hosts of a request are those that it names, whatever the cache was used for. -/
theorem fst_portfolio_of_holds (hc : cache.Holds id) (r : CompileRequest) (clock : τ) :
    (r.portfolio cache clock).1 = normalizeHosts r.portfolioHostnames := by
  unfold portfolio
  -- A request without hosts does not ask the cache.
  by_cases hempty : r.portfolioHostnames.isEmpty = true
  · rw [if_pos hempty, List.isEmpty_iff.mp hempty]
    rfl
  · rw [if_neg hempty]
    exact Link.HostCache.fst_get_of_holds hc clock r.portfolioHostnames

theorem holds_portfolio (hc : cache.Holds id) (r : CompileRequest) (clock : τ) :
    (r.portfolio cache clock).2.Holds id := by
  unfold portfolio
  by_cases hempty : r.portfolioHostnames.isEmpty = true
  · rw [if_pos hempty]
    exact hc
  · rw [if_neg hempty]
    exact Link.HostCache.holds_get hc clock r.portfolioHostnames

end CompileRequest

theorem fst_compileCached_of_holds (hc : cache.Holds id) (r : CompileRequest) (clock : τ)
    (now : Timestamp) :
    (compileCached cache clock r now).1 =
      compileSite r (normalizeHosts r.portfolioHostnames) now := by
  show compileSite r (r.portfolio cache clock).1 now = _
  rw [CompileRequest.fst_portfolio_of_holds hc]

/-! ### Calls -/

/-- A request to compile a site, the first reading of the clock when its texts ask for the hosts of
the portfolio, the later ones, and the time at which the site is made. -/
structure CompileCall (τ : Type) where
  request : CompileRequest
  clock : τ
  later : List τ := []
  now : Timestamp

/-- The readings of the clock during a call. -/
def CompileCall.readings (call : CompileCall τ) : List τ := call.clock :: call.later

/-- The sites that follow from lookups at given readings of the clock, and the cache afterwards. -/
def compileAt (r : CompileRequest) (now : Timestamp) :
    List τ → PortfolioCache τ → List (Except CompileError CompiledSite) × PortfolioCache τ
  | [], cache => ([], cache)
  | clock :: clocks, cache =>
    let (site, cache) := compileCached cache clock r now
    let (sites, cache) := compileAt r now clocks cache
    (site :: sites, cache)

/-- What a call makes with a cache: a site for each lookup, by what this lookup found. -/
def CompileCall.sites (call : CompileCall τ) (cache : PortfolioCache τ) :
    List (Except CompileError CompiledSite) × PortfolioCache τ :=
  compileAt call.request call.now call.readings cache

/-- What calls make one after the other, with one cache for all. -/
def compileShared (cache : PortfolioCache τ) :
    List (CompileCall τ) → List (List (Except CompileError CompiledSite))
  | [] => []
  | call :: calls =>
    let (sites, cache) := call.sites cache
    sites :: compileShared cache calls

/-- All lookups of a call find the same hosts, and leave the cache as it should be. -/
theorem compileAt_of_holds (hc : cache.Holds id) (r : CompileRequest) (now : Timestamp)
    (clocks : List τ) :
    (compileAt r now clocks cache).1 =
        clocks.map (fun _ => compileSite r (normalizeHosts r.portfolioHostnames) now) ∧
      (compileAt r now clocks cache).2.Holds id := by
  induction clocks generalizing cache with
  | nil => exact ⟨rfl, hc⟩
  | cons clock clocks ih =>
    -- The first lookup keeps the invariant for those that follow.
    obtain ⟨hsites, hholds⟩ := ih (CompileRequest.holds_portfolio hc r clock)
    refine ⟨?_, hholds⟩
    show (compileCached cache clock r now).1 :: (compileAt r now clocks _).1 = _
    rw [fst_compileCached_of_holds hc, List.map_cons]
    exact congrArg _ hsites

/-- What calls make with a cache that holds the hosts of its key. -/
theorem compileShared_of_holds (hc : cache.Holds id) (calls : List (CompileCall τ)) :
    compileShared cache calls = calls.map fun call =>
      call.readings.map fun _ =>
        compileSite call.request (normalizeHosts call.request.portfolioHostnames) call.now := by
  induction calls generalizing cache with
  | nil => rfl
  | cons call calls ih =>
    obtain ⟨hsites, hholds⟩ := compileAt_of_holds hc call.request call.now call.readings
    show (call.sites cache).1 :: compileShared (call.sites cache).2 calls = _
    have hrest : compileShared (call.sites cache).2 calls = _ := ih hholds
    rw [List.map_cons, hrest]
    exact congrArg (· :: _) hsites

/-- **Sharing a cache changes no site.** Calls that share one cache, empty at first, make what each
of them makes with an empty cache of its own, whatever the readings of the clock are and however
long hosts stay fresh. That is one and the same site at all its lookups, with links blocked to the
hosts that the call itself names. -/
theorem shared_cache_changes_no_site (ttl alone : τ) (calls : List (CompileCall τ)) :
    (compileShared { ttl } calls =
        calls.map fun call => (call.sites { ttl := alone }).1) ∧
      ∀ call : CompileCall τ, (call.sites { ttl := alone }).1 = call.readings.map fun _ =>
        compileSite call.request (normalizeHosts call.request.portfolioHostnames) call.now := by
  have hshared : ({ ttl } : PortfolioCache τ).Holds id := Link.HostCache.holds_of_entry_eq_none rfl
  have halone : ({ ttl := alone } : PortfolioCache τ).Holds id :=
    Link.HostCache.holds_of_entry_eq_none rfl
  have hsites (call : CompileCall τ) : (call.sites { ttl := alone }).1 = call.readings.map fun _ =>
      compileSite call.request (normalizeHosts call.request.portfolioHostnames) call.now :=
    (compileAt_of_holds halone call.request call.now call.readings).1
  -- Each side is what follows from the invariant, which an empty cache satisfies.
  refine ⟨?_, hsites⟩
  rw [compileShared_of_holds hshared]
  exact List.map_congr_left fun call _ => (hsites call).symm

end StaticSite
