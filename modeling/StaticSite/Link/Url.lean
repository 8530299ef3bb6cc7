import StaticSite.Text.Blank
import StaticSite.Text.Case
import StaticSite.Text.Find
import StaticSite.Text.Quoted

/-!
# Web addresses

A web address begins with a scheme and, after two slashes, names an authority, which holds the
host.

* `Url.parse` reads scheme and authority and refuses an authority that is malformed.
* `Url.hostname?` is the host in small letters.
* `looseScheme?` reads the scheme the way an address bar guesses it: digits alone after the colon
  are a port, so what precedes them is no scheme.
-/

namespace StaticSite.Link

/-!
## Numeric host addresses

* `isAddress4` accepts four numbers below 256 with points between them.
* `isAddress6` accepts eight groups of up to four hexadecimal digits with colons between them. A
  doubled colon stands for at least one group of zeros, the last two groups may be written as an
  address of four numbers, and a zone may follow a percent sign.
-/

/-- Whether a text is a number below 256 without needless zeros. -/
def isOctet (cs : List Char) : Bool :=
  !cs.isEmpty && cs.all Char.isDigit && cs.length ≤ 3 && (cs == ['0'] || cs.head? != some '0') &&
    cs.foldl (fun n c => 10 * n + (c.toNat - 48)) 0 ≤ 255

/-- Whether a text is an address of four numbers. -/
def isAddress4 (cs : List Char) : Bool :=
  let parts := Text.splitOnChar '.' cs
  parts.length == 4 && parts.all isOctet

/-- Whether a text is a group of hexadecimal digits. -/
def isGroup (cs : List Char) : Bool :=
  !cs.isEmpty && cs.length ≤ 4 &&
    cs.all fun c => c.isDigit || ('a' ≤ c && c ≤ 'f') || ('A' ≤ c && c ≤ 'F')

/-- The groups of an address, a final address of four numbers counting as two groups. -/
def groups? (cs : List Char) : Option (List (List Char)) :=
  let parts := Text.splitOnChar ':' cs
  let last := parts.getLastD []
  if parts.length < 3 then none
  else if last.contains '.' then
    if isAddress4 last then some (parts.dropLast ++ [['0'], ['0']]) else none
  else some parts

/-- The places of the empty groups that are neither first nor last. -/
def innerGaps (parts : List (List Char)) : List Nat :=
  (List.range parts.length).filter fun i =>
    0 < i && i + 1 < parts.length && (parts.getD i []).isEmpty

/-- The groups on one side of the doubled colon; an empty group at the end of the address is
allowed where it is alone. -/
def sideGroups? (outer : Option (List Char)) (side : List (List Char)) :
    Option (List (List Char)) :=
  if outer == some [] then (if side.length == 1 then some [] else none) else some side

/-- Whether the groups of an address are complete. -/
def areGroups (parts : List (List Char)) : Bool :=
  parts.length ≤ 9 &&
    match innerGaps parts with
    | [] => parts.length == 8 && parts.all isGroup
    | [gap] =>
      let high := parts.take gap
      let low := parts.drop (gap + 1)
      match sideGroups? high.head? high, sideGroups? low.getLast? low with
      | some high, some low => high.length + low.length < 8 && high.all isGroup && low.all isGroup
      | _, _ => false
    | _ => false

/-- Whether the zone of an address, from its percent sign, is well formed. -/
def isZone : List Char → Bool
  | [] => true
  | _ :: zone => !zone.isEmpty && !zone.contains '%'

/-- Whether a text is an address of eight groups. -/
def isAddress6 (cs : List Char) : Bool :=
  let address := cs.takeWhile (· != '%')
  isZone (cs.drop address.length) &&
    match groups? address with
    | some parts => areGroups parts
    | none => false

/-! ## Schemes and authorities -/

/-- What is wrong with an authority. -/
inductive UrlError where
  | brackets
  | noAddress (host : String)
  | shortAddress
  | futureAddress
  | lookalike (authority : String)
deriving DecidableEq, Repr

/-- The message of an error. -/
def UrlError.message : UrlError → String
  | brackets => "Invalid IPv6 URL"
  | noAddress host => Text.quoted host ++ " does not appear to be an IPv4 or IPv6 address"
  | shortAddress => "An IPv4 address cannot be in brackets"
  | futureAddress => "IPvFuture address is invalid"
  | lookalike authority =>
    "netloc '" ++ authority ++ "' contains invalid characters under NFKC normalization"

/-- A web address as far as its scheme and authority. -/
structure Url where
  scheme : String
  authority : String
deriving DecidableEq, Repr

/-- Whether a character may stand in a scheme. -/
def isSchemeChar (c : Char) : Bool := c.isAlphanum || c == '+' || c == '-' || c == '.'

/-- The text before the first colon and the text after it, when the former is not empty. -/
def splitColon? (cs : List Char) : Option (List Char × List Char) :=
  match Text.splitAt? [':'] cs with
  | some ([], _) => none
  | r => r

/-- The text between two leading slashes and the next slash, question mark or hash. -/
def authorityOf : List Char → List Char
  | '/' :: '/' :: cs => cs.takeWhile fun c => c != '/' && c != '?' && c != '#'
  | _ => []

/-- Whether brackets are unmatched: one kind stands without the other. -/
def hasLoneBracket (authority : List Char) : Bool :=
  authority.contains '[' != authority.contains ']'

/-- The characters whose plain form holds a character that ends an authority. -/
def lookalikes : List Nat :=
  [0x2047, 0x2048, 0x2049, 0x2100, 0x2101, 0x2105, 0x2106, 0x2A74, 0xFE13, 0xFE16, 0xFE55,
   0xFE56, 0xFE5F, 0xFE6B, 0xFF03, 0xFF0F, 0xFF1A, 0xFF1F, 0xFF20]

/-- Whether an authority holds a character that looks like a delimiter. -/
def hasLookalike (authority : List Char) : Bool :=
  authority.any fun c => lookalikes.contains c.toNat

/-- The host between brackets. -/
def bracketedHost (authority : List Char) : List Char :=
  ((authority.dropWhile (· != '[')).drop 1).takeWhile (· != ']')

/-- Whether a host is an address of a version to come: `v`, hexadecimal digits, a point, and
more on the same line. -/
def isFutureAddress : List Char → Bool
  | 'v' :: cs =>
    let digits := cs.takeWhile fun c =>
      c.isDigit || ('a' ≤ c && c ≤ 'f') || ('A' ≤ c && c ≤ 'F')
    !digits.isEmpty &&
      match cs.drop digits.length with
      | '.' :: rest => !rest.isEmpty && !rest.contains '\n'
      | _ => false
  | _ => false

/-- Checks the host between brackets. -/
def checkBracketed (host : List Char) : Except UrlError Unit :=
  if host.head? == some 'v' then
    if isFutureAddress host then .ok () else .error .futureAddress
  else if isAddress4 host then .error .shortAddress
  else if isAddress6 host then .ok ()
  else .error (.noAddress (String.ofList host))

/-- Checks an authority. -/
def checkAuthority (authority : List Char) : Except UrlError Unit :=
  if hasLoneBracket authority then .error .brackets
  else do
    if authority.contains '[' then checkBracketed (bracketedHost authority)
    if hasLookalike authority then .error (.lookalike (String.ofList authority))

/-- Whether a character is a control character or a space. -/
def isControlOrSpace (c : Char) : Bool := c.toNat ≤ 0x20

/-- A text without the characters that addresses ignore: tabs and line ends, and at its start
controls and spaces. -/
def dropIgnored (cs : List Char) : List Char :=
  (cs.dropWhile isControlOrSpace).filter fun c => c != '\t' && c != '\r' && c != '\n'

/-- A text cut after its scheme, if it has one. -/
def splitScheme (cs : List Char) : List Char × List Char :=
  match splitColon? cs with
  | some (scheme, rest) =>
    if (scheme.headD ' ').isAlpha && scheme.all isSchemeChar then
      (scheme.map Char.toLower, rest)
    else ([], cs)
  | none => ([], cs)

/-- The scheme and authority of a web address. -/
def Url.parse (text : String) : Except UrlError Url :=
  let (scheme, rest) := splitScheme (dropIgnored text.toList)
  let authority := authorityOf rest
  (checkAuthority authority).map fun _ => ⟨String.ofList scheme, String.ofList authority⟩

/-- The part of an authority after the last at sign. -/
def afterUser (authority : List Char) : List Char :=
  (authority.reverse.takeWhile (· != '@')).reverse

/-- The host of a web address, in small letters but for a zone after a percent sign. -/
def Url.hostname? (url : Url) : Option String :=
  let place := afterUser url.authority.toList
  let host :=
    if place.contains '[' then bracketedHost place else place.takeWhile (· != ':')
  if host.isEmpty then none
  else
    let name := host.takeWhile (· != '%')
    some (String.ofList (Text.lowerList name ++ host.drop name.length))

/-- The scheme of an address in small letters, empty when there is none, or nothing when its
authority is malformed. -/
def looseScheme? (cs : List Char) : Option (List Char) :=
  let cs := cs.filter fun c => c != '\t' && c != '\r' && c != '\n'
  let (scheme, rest) : List Char × List Char :=
    match splitColon? cs with
    | some (scheme, rest) =>
      if scheme == "http".toList ||
          (scheme.all isSchemeChar && (rest.isEmpty || !rest.all Char.isDigit)) then
        (scheme, rest)
      else ([], cs)
    | none => ([], cs)
  let authority := authorityOf rest
  if hasLoneBracket authority || hasLookalike authority then none else some scheme

end StaticSite.Link
