import StaticSite.Text.Blank
import StaticSite.Text.Find

/-!
# Routes and paths

A route names a page inside a site; `filePath` is the file that holds the page. Slugs and routes
come from outside.

* `isSafeSlug` and `isSafeRoute` accept those that can stand in a path.
* `root` is the first part of a route; `isReserved` tells whether no page may claim it.
-/

namespace StaticSite.Route

/-- A route without slashes at its ends. -/
def trimSlashes (route : List Char) : List Char := Text.stripChars (· == '/') route

/-- The file that holds the page at a route. -/
def filePath (route : String) : String :=
  if route = "/" then "index.html"
  else String.ofList (trimSlashes route.toList) ++ "/index.html"

/-- The parts of a route between its inner slashes. -/
def parts (route : String) : List (List Char) :=
  Text.splitOnChar '/' (trimSlashes route.toList)

/-- The first part of a route. -/
def root (route : String) : String := String.ofList ((parts route).headD [])

/-- The last part of a route. -/
def lastPart (route : String) : String := String.ofList ((parts route).getLastD [])

/-- Whether a character may begin a slug. -/
def isSlugStart (c : Char) : Bool := ('a' ≤ c && c ≤ 'z') || ('0' ≤ c && c ≤ '9')

/-- Whether a character may stand in a slug. -/
def isSlugChar (c : Char) : Bool := isSlugStart c || c == '-'

/-- A text without a line feed at its end. -/
def dropFinalNewline (cs : List Char) : List Char :=
  if cs.getLast? = some '\n' then cs.dropLast else cs

/-- Whether two points follow each other. -/
def hasParentStep (cs : List Char) : Bool := Text.containsList ['.', '.'] cs

/-- Whether a text is a small letter or digit followed by such characters and hyphens. -/
def isSlugText : List Char → Bool
  | [] => false
  | c :: rest => isSlugStart c && rest.all isSlugChar

/-- Whether a slug can stand in a path. A line feed at its end is let through. -/
def isSafeSlug (slug : String) : Bool :=
  !hasParentStep slug.toList && isSlugText (dropFinalNewline slug.toList)

/-- Whether the text after the first slash of a route consists of slugs with single slashes between
them, and perhaps one at the end; `fresh` tells whether a slug has to begin. -/
def isRouteText : Bool → List Char → Bool
  | _, [] => true
  | true, c :: rest => isSlugStart c && isRouteText false rest
  | false, c :: rest =>
    if c == '/' then isRouteText true rest else isSlugChar c && isRouteText false rest

/-- Whether a route can stand in a path. A line feed at its end is let through. -/
def isSafeRoute (route : String) : Bool :=
  !hasParentStep route.toList &&
    match dropFinalNewline route.toList with
    | '/' :: rest => isRouteText true rest
    | _ => false

/-- The first parts of paths that no page may claim. -/
def reserved : List String := ["embed"]

/-- Whether a first part of a path is one that no page may claim. -/
def isReserved (root : String) : Bool := reserved.contains root

end StaticSite.Route
