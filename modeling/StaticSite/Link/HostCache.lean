import StaticSite.Text.Blank
import StaticSite.Text.Case
import StaticSite.Text.Find

/-!
# Hosts of a portfolio

A portfolio is a list of hosts that belong to one owner. A `HostCache` keeps the list for a while.

* `normalizeHost` is the form in which hosts are compared.
* `HostCache.get` answers from the cache while the list is fresh and was loaded under the same
  key, and loads it anew otherwise. A load that fails gives no hosts and leaves the cache as it
  is.
-/

namespace StaticSite.Link

/-- A host without blanks around it and without a leading `www.`, in small letters. -/
def normalizeHost (host : String) : String :=
  let host := Text.lowerList (Text.stripList host.toList)
  String.ofList ((Text.stripPrefix? "www.".toList host).getD host)

/-- The hosts of a list, normalized; blank entries and repetitions are left out. -/
def normalizeHosts (hosts : List String) : List String :=
  ((hosts.filter fun h => !Text.isAllBlank h).map normalizeHost).eraseDups

/-- A list of hosts with the key and the time of its load. -/
structure HostEntry (κ τ : Type) where
  hosts : List String
  key : κ
  loadedAt : τ

/-- A list of hosts that stays fresh for a time. -/
structure HostCache (κ τ : Type) where
  ttl : τ
  entry : Option (HostEntry κ τ) := none

namespace HostCache

variable {κ τ : Type} [BEq κ] [Sub τ] [LT τ] [DecidableLT τ]

/-- The hosts of the cache, if they are fresh and belong to the key. -/
def fresh? (c : HostCache κ τ) (now : τ) (key : κ) : Option (List String) :=
  c.entry.bind fun e =>
    if now - e.loadedAt < c.ttl ∧ key == e.key then some e.hosts else none

/-- The hosts for a key, loaded if need be. -/
def get (c : HostCache κ τ) (now : τ) (key : κ) (load : Option (List String)) :
    List String × HostCache κ τ :=
  match c.fresh? now key with
  | some hosts => (hosts, c)
  | none =>
    match load with
    | none => ([], c)
    | some loaded =>
      let hosts := normalizeHosts loaded
      (hosts, { c with entry := some ⟨hosts, key, now⟩ })

/-- Forgets the hosts. -/
def invalidate (c : HostCache κ τ) : HostCache κ τ := { c with entry := none }

end HostCache

end StaticSite.Link
