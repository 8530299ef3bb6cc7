import StaticSite.Link.Url
import StaticSite.Number.Binary64

/-!
# Why a page cannot be made

A page fails when the address of a link cannot be read, when a number has no nearest integer, or
when the site has no frame for it.
-/

namespace StaticSite

/-- Why a page cannot be made. -/
inductive PageError where
  | address (e : Link.UrlError)
  | number (e : IntegerError)
  | shellMissing
deriving Repr

/-- A computation of a page that fails when a number has no nearest integer. -/
def PageError.ofInteger {α : Type} : Except IntegerError α → Except PageError α :=
  Except.mapError .number

end StaticSite
