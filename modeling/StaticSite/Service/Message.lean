import StaticSite.Json.Parser
import StaticSite.Json.Printer
import StaticSite.Preflight.Report
import StaticSite.Schema.Reader
import StaticSite.Site.Compile
import StaticSite.Text.Find

/-!
# Requests to the service and answers to them

A request has a method, a target and a body. An answer is a JSON value, the problems of a body, the
files of a site, or an archive of them.

* A `Target` names a path, and parameters after a question mark. Both may be written in percent
  notation. A slash at the end of a path does not count, and of several values for one parameter
  the last one does.
* `readBody` reads a record from the JSON text of a body. A body that does not fit is answered by
  its problems, each of which is placed inside the body.
* `Answer.status` is the status of an answer.
* `Answer.archiveOf` packs the files of a site, with a list of them in front.
-/

namespace StaticSite.Service

open Schema

/-- A request to the service. The body is empty if there is none. -/
structure Request where
  method : String
  target : String
  body : String
deriving Repr

/-! ### Targets -/

/-- A text without its percent notation. Codes beyond ASCII are left as single characters, since no
known name holds any. -/
def percentDecode : List Char → List Char
  | '%' :: a :: b :: rest =>
    match Json.hexValue? a, Json.hexValue? b with
    | some x, some y => Char.ofNat (16 * x + y) :: percentDecode rest
    | _, _ => '%' :: percentDecode (a :: b :: rest)
  | c :: rest => c :: percentDecode rest
  | [] => []

/-- The name and the value of a parameter. -/
def parameter (cs : List Char) : String × String :=
  let text (cs : List Char) : String :=
    String.ofList (percentDecode (cs.map fun c => if c == '+' then ' ' else c))
  (text (cs.takeWhile (· != '=')), text ((cs.dropWhile (· != '=')).drop 1))

/-- What a request asks for. -/
structure Target where
  path : String
  parameters : List (String × String)
deriving DecidableEq, Repr

namespace Target

/-- A path without slashes at its end. -/
def trimPath (path : List Char) : String :=
  String.ofList (if path == ['/'] then path else Text.dropRightWhile (· == '/') path)

/-- Reads a target. What follows a number sign is not part of it. -/
def read (target : String) : Target :=
  let cs := target.toList.takeWhile (· != '#')
  { path := trimPath (percentDecode (cs.takeWhile (· != '?')))
    parameters := (Text.splitOnChar '&' ((cs.dropWhile (· != '?')).drop 1)).map parameter }

/-- The value of a parameter. -/
def parameter? (t : Target) (name : String) : Option String := t.parameters.reverse.lookup name

end Target

/-! ### Bodies -/

/-- The cause of a problem in a body, where everything with attributes would do as a record. -/
def causeInBody : Cause → Cause
  | .modelType => .modelAttributesType
  | c => c

/-- A problem of a record as a problem of the body that holds it. -/
def problemInBody (p : Problem) : Problem :=
  Problem.under (.field "body") ⟨p.place, causeInBody p.cause⟩

/-- The value of a body. A mark of the byte order at its start is no part of it. -/
def parseBody (text : String) : Except (List Problem) Json :=
  let cs := match text.toList with
    | '\ufeff' :: rest => rest
    | cs => cs
  (Json.parse (String.ofList cs)).mapError fun m => [⟨[.field "body", .item m.place], .jsonInvalid⟩]

/-- Reads a record from a body. -/
def readBody {α : Type} (read : Reader α) (body : String) : Except (List Problem) α :=
  if body.isEmpty then .error [⟨[.field "body"], .missing⟩]
  else do
    match read (← parseBody body) with
    | .ok a => return a
    | .bad problems => throw (problems.map problemInBody)

/-! ### Answers -/

/-- An answer to a request. -/
inductive Answer where
  | json (status : Nat) (body : Json)
  | invalid (problems : List Schema.Problem)
  | site (s : CompiledSite)
  | archive (disposition : String) (files : List SiteFile)
deriving Repr

namespace Answer

/-- The status of an answer. -/
def status : Answer → Nat
  | .json status _ => status
  | .invalid _ => 422
  | .site _ | .archive .. => 200

/-- An answer that tells what went wrong. -/
def failure (status : Nat) (detail : String) : Answer :=
  .json status (.obj [("detail", .str detail)])

/-- The answer when the service itself fails. -/
def unexpected : Answer := failure 500 "An unexpected error occurred."

/-- The answer to a client that asks too often. -/
def tooMany (text : String) : Answer := .json 429 (.obj [("error", .str text)])

/-- The answer for a path that leads nowhere. -/
def notFound : Answer := failure 404 "Not Found"

/-- The answer to a method that a path does not have. -/
def wrongMethod : Answer := failure 405 "Method Not Allowed"

/-- The name of the archive of a site. -/
def archiveName (domain : String) : String := Text.replaceAll domain "." "-" ++ "-site.zip"

/-- The list of the files of a site, as a file. -/
def manifestFile (s : CompiledSite) : SiteFile :=
  { path := "manifest.json", content := s.manifest.renderIndented .unicode }

/-- The files of a site as an archive. Its name stands in a header, which is ASCII. -/
def archiveOf (s : CompiledSite) : Answer :=
  let name := archiveName s.domain
  if name.toList.all fun c => c.toNat < 128 then
    .archive ("attachment; filename=\"" ++ name ++ "\"") (manifestFile s :: s.files)
  else unexpected

end Answer

end StaticSite.Service
