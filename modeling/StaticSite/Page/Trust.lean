import StaticSite.Html.Markup
import StaticSite.Page.Shell

/-!
# What readers may rely on

The parts of a page that tell where its statements come from and how old they are.

* `disclaimer` and `trustSection` hold what the settings of the site ask for: the disclaimer, the
  disclosure, the sources, the reviewer and the day of the last change.
* `freshnessBadge` grades an article by its age and the expiry of its data.
* `printButton` and `dataSources` stand at the end of an article.
-/

namespace StaticSite

/-- An article younger than this number of days is fresh. -/
def freshDays : Int := 30

/-- An article older than this number of days is stale. -/
def staleDays : Int := 90

/-- The text `Mon D, YYYY` of a point in time. -/
def shortDate (t : Timestamp) : String :=
  String.ofList ((Date.monthNames.getD (t.date.month - 1) "").toList.take 3) ++ " " ++
    toString t.date.day ++ ", " ++ toString t.date.year

/-- When something was retrieved, if that is known. -/
def retrievedNote (t : Option Timestamp) : Markup :=
  Markup.whenSome t fun t =>
    html " " ++ el "small" [] (esc ("(Retrieved " ++ shortDate t ++ ")"))

/-- The disclaimer of an article on a sensitive subject. -/
def disclaimer (a : Article) (settings : Option Disclosure) : Markup :=
  let sensitive := a.sensitivity == .high || a.sensitivity == .medium
  let text := settings.bind fun d => present? d.notAdviceDisclaimer
  if sensitive then
    Markup.whenSome text fun t => el "div" [cls "disclaimer"] (esc t)
  else Markup.empty

/-- The attributes of a link to a source. -/
def sourceLink (url : String) : List Markup :=
  [attr "href" url, attr "rel" "nofollow noopener", attr "target" "_blank"]

/-- A source in the list of sources. -/
def sourceItem (number : Nat) (c : Citation) : Markup :=
  el "li" []
    (esc ("[" ++ toString number ++ "] ") ++
      el "a" (sourceLink c.sourceUrl) (esc ((present? c.sourceTitle).getD c.sourceUrl)) ++
      retrievedNote c.retrievedAt)

/-- The numbered list of the sources of an article, in the order of their positions. -/
def sourceList (citations : List Citation) : Option Markup :=
  let ordered := citations.mergeSort fun a b => a.position ≤ b.position
  if ordered.isEmpty then none
  else
    let items := ordered.zipIdx.map fun (c, i) => sourceItem (i + 1) c
    some (el "section" [cls "sources"]
      (el "h2" [] (esc "Sources") ++ el "ol" [] (Markup.lines items)))

/-- The disclosure that a site earns by its links. -/
def affiliateNote (settings : Disclosure) : Option Markup :=
  (present? settings.affiliateDisclosure).map fun t =>
    el "div" [cls "disclosure affiliate-disclosure"] (el "small" [] (esc t))

/-- Who reviewed an article. -/
def reviewerNote (a : Article) (settings : Disclosure) : Option Markup :=
  if settings.showReviewedBy then
    (present? a.reviewedBy).map fun who =>
      el "div" [cls "reviewed-by"] (el "small" [] (esc ("Reviewed by " ++ Text.strip who)))
  else none

/-- When an article was changed last. -/
def updatedNote (a : Article) (settings : Disclosure) : Option Markup :=
  if settings.showLastUpdated then
    a.times.updated.map fun t =>
      el "div" [cls "last-updated"] (el "small" [] (esc ("Last updated: " ++ shortDate t)))
  else none

/-- The notes below an article, one to a line. -/
def trustSection (a : Article) (settings : Option Disclosure) (citations : List Citation) :
    Markup :=
  Markup.lines
    ([settings.bind affiliateNote, sourceList citations, settings.bind (reviewerNote a),
      settings.bind (updatedNote a)].filterMap id)

/-- How well an article may be trusted to be up to date. -/
inductive Freshness where
  | outdated
  | verified (on : Timestamp)
  | unreviewed
deriving DecidableEq, Repr

/-- The microseconds of a day. -/
def dayMicros : Int := 86400000000

/-- Grades an article. It is outdated once any of its data has expired, and verified if it changed
less than `freshDays` ago; otherwise nobody has reviewed it. -/
def Freshness.grade (now : Timestamp) (updated : Option Timestamp) (datasets : List Dataset) :
    Freshness :=
  let expired (d : Dataset) : Bool :=
    (d.expiresAt.map fun t => decide (t.micros < now.micros)).getD false
  if datasets.any expired then .outdated
  else match updated with
    | none => .unreviewed
    | some t =>
      let age := now.micros - t.micros
      if age ≤ staleDays * dayMicros ∧ age < freshDays * dayMicros then .verified t
      else .unreviewed

/-- The class of the badge for a grade. -/
def Freshness.className : Freshness → String
  | .outdated => "freshness-red"
  | .verified _ => "freshness-green"
  | .unreviewed => "freshness-yellow"

/-- The text of the badge for a grade. -/
def Freshness.label : Freshness → String
  | .outdated => "Needs update"
  | .verified on => "Verified " ++ shortDate on
  | .unreviewed => "Review pending"

/-- The badge for a grade. -/
def Freshness.badge (f : Freshness) : Markup :=
  el "div" [cls ("freshness-badge " ++ f.className)]
    (el "span" [cls "freshness-dot"] Markup.empty ++ esc f.label)

/-- The badge of an article, unless nothing is known about its age. -/
def freshnessBadge (now : Timestamp) (a : Article) (datasets : List Dataset) : Markup :=
  if datasets.isEmpty && a.times.updated.isNone then Markup.empty
  else (Freshness.grade now a.times.updated datasets).badge

/-- Whether readers print articles of a type. -/
def ContentType.isPrintable : ContentType → Bool
  | .costGuide | .comparison | .checklist | .faq | .review | .infographic | .map => true
  | _ => false

/-- The button that prints an article, for the types that readers print. -/
def printButton (t : ContentType) : Markup :=
  Markup.when t.isPrintable
    (el "button" [cls "print-btn", attr "onclick" "window.print()", attr "type" "button"]
      (esc "Save as PDF"))

/-- A dataset in the list of datasets. -/
def datasetItem (d : Dataset) : Markup :=
  let link := ((present? d.sourceUrl).map sourceLink).getD []
  let publisher := Markup.whenSome (present? d.publisher) fun p => esc (" — " ++ p)
  let usage := Markup.whenSome (present? d.usage) fun u =>
    html " " ++ el "span" [cls "data-usage"] (esc u)
  el "li" [cls "data-source-item"]
    (el "a" link (esc ((present? d.sourceTitle).getD d.name)) ++ publisher ++
      retrievedNote d.retrievedAt ++ usage)

/-- The list of the datasets of an article. -/
def dataSources (datasets : List Dataset) : Markup :=
  Markup.when (!datasets.isEmpty)
    (el "section" [cls "data-sources"]
      (el "h2" [] (esc "Data Sources") ++ el "ul" [] (Markup.lines (datasets.map datasetItem))))

end StaticSite
