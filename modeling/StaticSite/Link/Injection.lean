import StaticSite.Content.Site
import StaticSite.Html.Markup
import StaticSite.Site.Route
import StaticSite.Text.Case
import StaticSite.Text.Digit
import StaticSite.Text.WordChar

/-!
# Linking mentions of other pages

`injectLinks` turns mentions of keywords in the text of a page into links. A mention counts when it
stands, between word boundaries, in the text that directly follows the opening tag of a paragraph or
list item and is directly followed by a closing tag of either kind. Only the first mention of a
keyword is looked at, and it is passed over when a link stands before it.

* `findMention` is the first mention of a keyword.
* `linkFiles` links the pages of a site to each other.
-/

namespace StaticSite.Link

/-!
## Keywords of pages

A page is mentioned by its title, by its title without punctuation and years in parentheses, and by
the last part of its route.
-/

/-- A page that others may link to. -/
structure Target where
  route : String
  title : String
deriving DecidableEq, Repr

/-- The phrases that lead to a page. -/
structure PageKeywords where
  route : String
  keywords : List String
deriving DecidableEq, Repr

/-- A text without years in parentheses, `skip` characters of which still belong to a year. -/
def dropYears : Nat → List Char → List Char
  | _, [] => []
  | skip + 1, _ :: rest => dropYears skip rest
  | 0, '(' :: a :: b :: c :: d :: ')' :: rest =>
    if [a, b, c, d].all Text.isDigit then dropYears 5 (a :: b :: c :: d :: ')' :: rest)
    else '(' :: dropYears 0 (a :: b :: c :: d :: ')' :: rest)
  | 0, c :: rest => c :: dropYears 0 rest

/-- Whether a character is an ASCII letter or digit or a blank. -/
def isPlain (c : Char) : Bool := c.isAlphanum || Text.isBlank c

/-- A title without years and punctuation, in small letters. -/
def plainTitle (title : String) : String :=
  Text.lower (Text.strip (String.ofList ((dropYears 0 title.toList).filter isPlain)))

/-- The keywords that a title gives. -/
def titleKeywords (title : String) : List String :=
  if title = "" then []
  else
    let lowered := Text.lower title
    let plain := plainTitle title
    if 5 < plain.length && plain != lowered then [lowered, plain] else [lowered]

/-- The keywords that a route gives. -/
def routeKeywords (route : String) : List String :=
  let phrase := Text.lower (Text.replaceAll (Route.lastPart route) "-" " ")
  if 3 < phrase.length then [phrase] else []

/-- The phrases that lead to the page with a title at a route. -/
def keywordsOf (title route : String) : List String := titleKeywords title ++ routeKeywords route

/-- The keywords of a target. -/
def Target.keywords (t : Target) : PageKeywords := ⟨t.route, keywordsOf t.title t.route⟩

/-! ## Mentions -/

open Text (sameLetter isWordChar)

/-- The most links that are put into one page. -/
def maxLinks : Nat := 8

/-- The length of the shortest keyword that counts. -/
def minKeywordLength : Nat := 4

/-- The rest of a text that begins with a phrase, regardless of case, and the phrase as it is
written there. -/
def matchPhrase : List Char → List Char → Option (List Char × List Char)
  | [], cs => some ([], cs)
  | _ :: _, [] => none
  | k :: ks, c :: cs =>
    if sameLetter k c then (matchPhrase ks cs).map fun r => (c :: r.1, r.2) else none

/-- Whether a word boundary lies between a character and the text after it. -/
def atBoundary (before : Char) (after : List Char) : Bool :=
  isWordChar before != (match after with
    | [] => false
    | c :: _ => isWordChar c)

/-- The name of a tag that mentions are looked for in, at the start of a text: the rest after it. -/
def paragraphName? (cs : List Char) : Option (Char × List Char) :=
  match cs with
  | a :: rest =>
    if sameLetter 'p' a then some (a, rest)
    else match rest with
      | b :: more => if sameLetter 'l' a && sameLetter 'i' b then some (b, more) else none
      | [] => none
  | [] => none

/-- The opening tag of a paragraph or list item at the start of a text, and the rest after it. -/
def openingTag? (cs : List Char) : Option (List Char × List Char) :=
  match cs with
  | '<' :: rest =>
    match paragraphName? rest with
    | some (last, more) =>
      if atBoundary last more && more.contains '>' then
        let n := cs.length - more.length + (more.takeWhile (· != '>')).length + 1
        some (cs.take n, cs.drop n)
      else none
    | none => none
  | _ => none

/-- Whether the first tag of a text closes a paragraph or list item. -/
def isClosedNext (cs : List Char) : Bool :=
  match cs.dropWhile (· != '<') with
  | '<' :: '/' :: rest =>
    match paragraphName? rest with
    | some (_, '>' :: _) => true
    | _ => false
  | _ => false

/-- A mention of a keyword: the text before it that begins with the opening tag, the phrase as it
is written, and the text after it. -/
structure Mention where
  opening : List Char
  phrase : List Char
  rest : List Char
deriving DecidableEq, Repr

/-- The mention of a keyword at a place in the text after an opening tag. `opening` is the tag and
the text passed so far, last character first; `before` is its last character. -/
def mentionHere (keyword : List Char) (before : Char) (opening cs : List Char) : Option Mention :=
  if atBoundary before cs then
    match matchPhrase keyword cs with
    | some (phrase, rest) =>
      if atBoundary (phrase.getLastD before) rest && isClosedNext rest then
        some ⟨opening.reverse, phrase, rest⟩
      else none
    | none => none
  else none

/-- The first mention of a keyword from a place on, up to the next tag. -/
def findInText (keyword : List Char) (before : Char) (opening : List Char) :
    List Char → Option Mention
  | [] => mentionHere keyword before opening []
  | c :: cs =>
    match mentionHere keyword before opening (c :: cs) with
    | some m => some m
    | none => if c == '<' then none else findInText keyword c (c :: opening) cs

/-- The first mention of a keyword in a page, and the part of the page before its opening tag. -/
def findMention (keyword : List Char) : List Char → Option (List Char × Mention)
  | [] => none
  | c :: cs =>
    let here := match openingTag? (c :: cs) with
      | some (tag, text) => findInText keyword '>' tag.reverse text
      | none => none
    match here with
    | some m => some ([], m)
    -- The search goes on right behind this character, and so inside of a tag that led to nothing.
    | none => (findMention keyword cs).map fun r => (c :: r.1, r.2)

/-- Whether a link stands before a mention. -/
def followsLink (m : Mention) : Bool :=
  Text.containsList "<a ".toList m.opening || Text.containsList "href=".toList m.opening

/-- The link to a route around a phrase. -/
def linkTo (route : String) (phrase : List Char) : List Char :=
  "<a href=\"".toList ++ (esc route).text.toList ++ "\">".toList ++ phrase ++ "</a>".toList

/-- A page with the first mention of a keyword turned into a link, if there is a fit one. -/
def linkKeyword? (route : String) (page : List Char) (keyword : String) : Option (List Char) :=
  if keyword.length < minKeywordLength then none
  else
    match findMention keyword.toList page with
    | some (lead, m) =>
      if followsLink m then none else some (lead ++ m.opening ++ linkTo route m.phrase ++ m.rest)
    | none => none

/-- Goes through the pages that may be linked to; `linked` are the routes that have their link. -/
def injectFrom (current : String) : List PageKeywords → List String → List Char → List Char
  | [], _, page => page
  | target :: targets, linked, page =>
    if maxLinks ≤ linked.length then page
    else if target.route = current || linked.contains target.route then
      injectFrom current targets linked page
    -- The first keyword that can be linked has the link; the others are left alone.
    else match target.keywords.findSome? (linkKeyword? target.route page) with
      | some page => injectFrom current targets (target.route :: linked) page
      | none => injectFrom current targets linked page

/-- A page with mentions of other pages turned into links, at most one for each. -/
def injectLinks (page current : String) (targets : List PageKeywords) : String :=
  String.ofList (injectFrom current targets [] page.toList)

/-- The route whose page a file holds; of several targets the last one counts. -/
def routeOf? (targets : List Target) (path : String) : Option String :=
  (targets.reverse.find? fun t => Route.filePath t.route = path).map (·.route)

/-- A file with its mentions of other pages turned into links. -/
def linkFile (targets : List Target) (file : SiteFile) : SiteFile :=
  if file.isBinary || !Text.endsWith file.path ".html" then file
  else match routeOf? targets file.path with
    | none => file
    | some route =>
      { file with content := injectLinks file.content route (targets.map Target.keywords) }

/-- The files of a site with the pages linked to each other. -/
def linkFiles (targets : List Target) (files : List SiteFile) : List SiteFile :=
  files.map (linkFile targets)

end StaticSite.Link
