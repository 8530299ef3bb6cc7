import StaticSite.Preflight.Check
import StaticSite.Text.Case

/-!
# The report on a site

`Preflight.report` checks the pages of a site: their blocks, their descriptions, and whether the
pages are there that every site needs. A site is ready if no issue is an error.
-/

namespace StaticSite.Preflight

/-- Whether a character is a letter that may stand in the last part of a domain. -/
def isDomainLetter (c : Char) : Bool :=
  "abcdefghijklmnopqrstuvwxyz".toList.any fun l => Text.sameLetter l c

/-- A domain without its last part, if that consists of letters. A line feed at the end does not
count. -/
def withoutLastPart (domain : String) : String :=
  let cs := domain.toList.reverse
  let (lineEnd, body) := match cs with
    | '\n' :: rest => (['\n'], rest)
    | cs => ([], cs)
  let part := body.takeWhile isDomainLetter
  match body.dropWhile isDomainLetter with
  | '.' :: rest =>
    if part.isEmpty then domain else String.ofList (rest.reverse ++ lineEnd)
  | _ => domain

/-- The length of the shortest description that counts. -/
def leastDescriptionLength : Nat := 20

/-- Whether a description is too short. -/
def isShort (description : Option String) : Bool :=
  (description.getD "").length < leastDescriptionLength

/-- The issues of a page. -/
def pageIssues (s : Site) (p : Page) : List Issue :=
  (p.blocks.flatMap fun b =>
    (s.checkBlock b).map fun concern => ⟨concern, p.route, some b.id⟩) ++
    if isShort p.metaDescription then [⟨.shortDescription, p.route, none⟩] else []

/-- The place of issues of the site as a whole. -/
def wholeSite : String := "(site)"

/-- A concern, unless the site has a page at one of some routes. -/
def needs (s : Site) (routes : List String) (concern : Concern) : List Issue :=
  if routes.any fun r => s.routes.contains r then [] else [⟨concern, wholeSite, none⟩]

/-- The issues of a site as a whole. -/
def siteIssues (s : Site) : List Issue :=
  needs s ["/"] .missingHome ++
    needs s ["/privacy-policy", "/privacy"] .missingPrivacyPolicy ++
    needs s ["/terms"] .missingTerms

/-- The issues of a site, in the order of its pages. -/
structure Report where
  issues : List Issue
deriving Repr

namespace Report

/-- The number of errors. -/
def errorCount (r : Report) : Nat := r.issues.countP fun i => i.concern.severity = .error

/-- The number of warnings. -/
def warningCount (r : Report) : Nat := r.issues.length - r.errorCount

/-- Whether the site is ready to be compiled. -/
def isReady (r : Report) : Bool := r.errorCount = 0

/-- A report as JSON. -/
def json (r : Report) : Json :=
  .obj
    [("ready", .bool r.isReady), ("error_count", .int r.errorCount),
     ("warning_count", .int r.warningCount), ("issues", .arr (r.issues.map Issue.json))]

end Report

/-- Checks the pages of a domain. -/
def report (domain : String) (pages : List Page) (niche : Option String) : Report :=
  let site : Site :=
    { routes := pages.map (·.route)
      slug := withoutLastPart domain
      niche := (niche.filter fun n => !n.isEmpty).getD "general" }
  ⟨pages.flatMap (pageIssues site) ++ siteIssues site⟩

end StaticSite.Preflight
