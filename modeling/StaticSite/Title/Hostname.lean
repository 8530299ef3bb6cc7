import StaticSite.Text.Digit
import StaticSite.Text.Find
import StaticSite.Title.Segmentation

/-!
# Site titles from hostnames

`siteTitle` makes a readable title of a hostname: it drops the top-level domain, reads hyphens and
underscores as spaces, puts a space where a small letter meets a capital one or a letter a digit,
and cuts a single run of letters into words. Each word is written with a capital letter, in its own
spelling if it has one.
-/

namespace StaticSite.Title

/-- The top-level domains of two parts. -/
def compoundDomains : List String :=
  [".co.uk", ".org.uk", ".me.uk", ".ltd.uk", ".com.au", ".net.au", ".org.au", ".co.nz", ".co.za",
   ".com.br", ".co.in", ".com.mx", ".com.sg", ".co.jp"]

/-- A hostname less everything from its last point, unless that point comes first. -/
def dropLastPart (host : List Char) : List Char :=
  match (host.reverse.dropWhile (· != '.')).drop 1 with
  | [] => host
  | rest => rest.reverse

/-- A hostname without a leading `www.`. -/
def dropWww (host : List Char) : List Char :=
  if "www.".toList.isPrefixOf (Text.lowerList host) then host.drop 4 else host

/-- A hostname without its top-level domain. -/
def stripDomain (hostname : String) : List Char :=
  let host := dropWww (Text.stripList hostname.toList)
  let lowered := String.ofList (Text.lowerList host)
  match compoundDomains.find? fun d => Text.endsWith lowered d && d.length < host.length with
  | some d => host.take (host.length - d.length)
  | none => dropLastPart host

/-- Whether a new word begins between two characters. -/
def isBoundary (a b : Char) : Bool :=
  (a.isLower && b.isUpper) || (a.isAlpha && Text.isDigit b) || (Text.isDigit a && b.isAlpha)

/-- A text with a space wherever a new word begins. -/
def splitBoundaries : List Char → List Char
  | a :: b :: rest =>
    if isBoundary a b then a :: ' ' :: splitBoundaries (b :: rest)
    else a :: splitBoundaries (b :: rest)
  | cs => cs

/-- A text with a space for each run of hyphens and underscores. -/
def joinsToSpaces : List Char → List Char
  | [] => []
  | [c] => if c == '-' || c == '_' then [' '] else [c]
  | a :: b :: rest =>
    if a == '-' || a == '_' then
      if b == '-' || b == '_' then joinsToSpaces (b :: rest) else ' ' :: joinsToSpaces (b :: rest)
    else a :: joinsToSpaces (b :: rest)

/-- A word as it is written in a title. -/
def caseWord (isFirst : Bool) (word : String) : String :=
  let lowered := Text.lower word
  if isFirst && minorWords.contains lowered then Text.capitalize word
  else (brandCasing.lookup lowered).getD (Text.capitalize word)

/-- The words of a title as they are written. -/
def caseWords : List String → List String
  | [] => []
  | w :: ws => caseWord true w :: ws.map (caseWord false)

/-- The spaced form of a name, in which each word stands alone. -/
def spacedName (base : List Char) : List Char :=
  let name := Text.stripList (joinsToSpaces base)
  let name := if name.contains ' ' then name else splitBoundaries name
  if !name.contains ' ' && !name.isEmpty && name.all Text.isLetter then
    [' '].intercalate (segment name)
  else name

/-- The title of a site with a given hostname. -/
def siteTitle (hostname : String) : String :=
  let trimmed := Text.stripList hostname.toList
  let base := stripDomain hostname
  match Text.words (String.ofList (spacedName (if base.isEmpty then trimmed else base))) with
  | [] => String.ofList trimmed
  | ws => " ".intercalate (caseWords ws)

end StaticSite.Title
