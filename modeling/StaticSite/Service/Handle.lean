import StaticSite.Service.Message

/-!
# The service

The service compiles sites, checks them, and makes titles. It keeps the counts of the requests of a
client and a cache of the hosts of portfolios.

* `Service.handle` answers a request. A body that does not fit is refused before the request is
  counted.
-/

namespace StaticSite.Service

/-!
## Limits on requests

Each endpoint answers a limited number of requests of one client in a minute. A `Limiter` counts the
requests of the minute in progress.
-/

/-- What the service does for a client. -/
inductive Endpoint where
  | compile
  | validate
  | siteTitle
deriving DecidableEq, Repr

/-- The number of requests that an endpoint answers in a minute. -/
def maxRequests : Nat := 10

/-- The text for a client that asks too often. -/
def limitText : String := "Rate limit exceeded: " ++ toString maxRequests ++ " per 1 minute"

/-- The requests of one client in the minute in progress. -/
structure Limiter where
  counts : Endpoint → Nat := fun _ => 0

namespace Limiter

/-- Whether one more request is answered, and the limiter that has counted it. -/
def count (l : Limiter) (e : Endpoint) : Bool × Limiter :=
  (l.counts e < maxRequests, ⟨fun f => if f = e then l.counts e + 1 else l.counts f⟩)

end Limiter

/-! ## Requests and answers -/

/-- What the service keeps between requests. -/
structure State where
  limiter : Limiter := {}
  cache : PortfolioCache Int

namespace State

/-- The time in seconds for which the hosts of a portfolio stay fresh. -/
def portfolioTtl : Int := 300

/-- A service that has not answered any request. -/
def start : State := { cache := { ttl := portfolioTtl } }

/-- Answers a request to an endpoint, unless its client asks too often. -/
def limited (s : State) (e : Endpoint) (answer : State → Answer × State) : Answer × State :=
  let (isWithin, limiter) := s.limiter.count e
  let s := { s with limiter }
  if isWithin then answer s else (.tooMany limitText, s)

end State

/-- Answers a request whose body is a record. -/
def withRecord {α : Type} (s : State) (e : Endpoint) (read : Schema.Reader α) (body : String)
    (answer : α → State → Answer × State) : Answer × State :=
  match readBody read body with
  | .error problems => (.invalid problems, s)
  | .ok record => s.limited e (answer record)

/-- Compiles a site, as an archive if `packed`. -/
def answerCompile (now : Timestamp) (clock : Int) (packed : Bool) (r : CompileRequest) (s : State) :
    Answer × State :=
  let (result, cache) := compileCached s.cache clock r now
  let answer : Answer := match result with
    | .ok site => if packed then .archiveOf site else .site site
    | .error .domainMissing => .failure 404 CompileError.domainMissingText
    | .error (.page _) => .unexpected
  (answer, { s with cache })

/-- Checks the pages of a site. -/
def answerValidate (r : ValidateRequest) (s : State) : Answer × State :=
  (.json 200 (Preflight.report r.domain r.pages r.niche).json, s)

/-- Makes a title of a hostname. -/
def answerTitle (hostname : String) (s : State) : Answer × State :=
  (.json 200 (.obj [("hostname", .str hostname), ("title", .str (Title.siteTitle hostname))]), s)

/-- Answers a request at a time. -/
def handle (now : Timestamp) (clock : Int) (s : State) (r : Request) : Answer × State :=
  let target := Target.read r.target
  let expect (method : String) (answer : Unit → Answer × State) : Answer × State :=
    if r.method == method then answer () else (.wrongMethod, s)
  match target.path with
  | "/" => expect "GET" fun _ =>
    (.json 200 (.obj [("message", .str "Hello from Sitegen")]), s)
  | "/compile" => expect "POST" fun _ =>
    let packed := target.parameter? "format" == some "zip"
    withRecord s .compile CompileRequest.read r.body (answerCompile now clock packed)
  | "/validate" => expect "POST" fun _ =>
    withRecord s .validate ValidateRequest.read r.body answerValidate
  | "/site-title" => expect "POST" fun _ =>
    withRecord s .siteTitle readHostname r.body answerTitle
  | _ => (.notFound, s)

/-- Answers requests one after the other, all within one minute. -/
def handleAll (now : Timestamp) (clock : Int) : State → List Request → List Answer
  | _, [] => []
  | s, r :: rs =>
    let (answer, s) := handle now clock s r
    answer :: handleAll now clock s rs

end StaticSite.Service
