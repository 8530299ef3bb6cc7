import StaticSite.Markdown.Emphasis
import StaticSite.Markdown.LinkSyntax
import StaticSite.Markdown.Printer

/-!
# Markup inside paragraphs

The text of an element is searched by one pattern after the other: code, escapes, links and images,
addresses, line breaks, HTML, references to characters, and emphasis. What a pattern recognizes is
held back, with a mark in its place, so that later patterns do not see it; the text inside an
element that was recognized is searched by the later patterns at once.

`readInline` searches the texts of a tree, and puts the elements in the places of their marks.
-/

namespace StaticSite.Markdown

/-- What a mark stands for. -/
inductive Held where
  | text (data : List Char)
  | element (e : Element)
deriving Inhabited

/-- What was held back, and the pieces of HTML of the article. -/
structure Inline where
  held : Array Held := #[]
  raw : Array (List Char) := #[]

/-- What a pattern makes of the start of a text. -/
inductive Attempt where
  /-- The pattern does not apply. -/
  | none
  /-- The text up to `rest` is passed over. -/
  | pass (rest : List Char)
  /-- The text up to `rest` is replaced by text. -/
  | text (data rest : List Char)
  /-- The text up to `rest` is replaced by an element. -/
  | element (e : Element) (rest : List Char)
  /-- The text up to `rest` is replaced by HTML. -/
  | html (data rest : List Char)
  /-- The text up to `rest` is replaced by a link to a mail address. -/
  | mail (address rest : List Char)

/-- What patterns need to know: the references of the article and what is held. -/
structure InlineContext where
  references : References
  held : Array Held

/-- A pattern looks at a text and the character before it. -/
abbrev Pattern := InlineContext → Option Char → List Char → Attempt

mutual

/-- The text inside an element, without the text after it. -/
def Element.innerText : Element → List Char
  | ⟨_, _, text, _, children, _⟩ => text ++ elementsText children

/-- The text inside and between elements. -/
def elementsText : List Element → List Char
  | [] => []
  | ⟨tag, attributes, text, verbatim, children, tail⟩ :: es =>
    (⟨tag, attributes, text, verbatim, children, tail⟩ : Element).innerText ++ tail ++
      elementsText es

end

/-- A text with its node marks replaced by the text that they stand for. -/
def InlineContext.plain (ctx : InlineContext) (cs : List Char) : List Char :=
  replaceMarks .node (fun n =>
    match ctx.held[n]? with
    | some (.text data) => data
    | some (.element e) => e.innerText
    | none => mark .node n) cs

/-- A text with its node marks replaced by the source that they stand for. -/
def InlineContext.source (ctx : InlineContext) (cs : List Char) : List Char :=
  unescape (replaceMarks .node (fun n =>
    match ctx.held[n]? with
    | some (.text data) => '\\' :: data
    | some (.element e) => e.html
    | none => []) cs)

/-! ### Patterns -/

/-- The code in a text that begins with `n` grave accents, up to exactly as many; and the text
after them. `prev` is the character before. -/
def splitCode? (n : Nat) (prev : Char) (started : Bool) : List Char → Option (List Char × List Char)
  | [] => none
  | c :: cs =>
    let closed : Option (List Char) :=
      if started && prev != grave then
        (Text.stripPrefix? (List.replicate n grave) (c :: cs)).filter fun rest =>
          rest.head? != some grave
      else none
    match closed with
    | some rest => some ([], rest)
    | none => (splitCode? n c true cs).map fun (code, rest) => (c :: code, rest)

/-- Code between grave accents, or backslashes in pairs before one. -/
def codePattern : Pattern := fun _ prev cs =>
  if prev == some '\\' then .none
  else
    let slashes := (cs.takeWhile (· == '\\')).length
    let ticks := (cs.takeWhile (· == grave)).length
    if 0 < slashes then
      let rest := cs.drop slashes
      if slashes % 2 == 0 && rest.head? == some grave then
        .text ((List.replicate (slashes / 2) (mark .escape '\\'.toNat)).flatten) rest
      else .none
    else
      -- Of the accents at the start, as many as possible open the code.
      let found := (List.range ticks).reverse.findSome? fun n =>
        splitCode? (n + 1) grave false (cs.drop (n + 1))
      match found with
      | some (code, rest) =>
        .element
          { tag := "code", text := escapeCode (Text.stripList code), verbatim := true } rest
      | none => .none

/-- The characters that a backslash escapes. -/
def escapable : List Char := "\\\x60*_\x7b\x7d[]()>#+-.!|".toList

/-- An escaped character. -/
def escapePattern : Pattern := fun _ _ cs =>
  match cs with
  | '\\' :: c :: rest =>
    if escapable.contains c then .text (mark .escape c.toNat) rest else .pass rest
  | _ => .none

/-- The bracket that begins a link, after a character that is no exclamation mark. -/
def linkStart? (prev : Option Char) (cs : List Char) : Option (List Char) :=
  match cs with
  | '[' :: rest => if prev == some '!' then none else some rest
  | _ => none

/-- The bracket that begins an image. -/
def imageStart? (_prev : Option Char) (cs : List Char) : Option (List Char) :=
  Text.stripPrefix? ['!', '['] cs

/-- The element of a link. -/
def linkElement (text address : List Char) (title : Option (List Char)) : Element :=
  { tag := "a", text
    attributes := ("href", address) :: (title.map fun t => ("title", t)).toList }

/-- The element of an image. -/
def imageElement (ctx : InlineContext) (text address : List Char) (title : Option (List Char)) :
    Element :=
  { tag := "img"
    attributes :=
      ("src", address) :: (title.map fun t => ("title", t)).toList ++ [("alt", ctx.plain text)] }

/-- Makes an element of a text, an address and a title. -/
abbrev LinkMaker := InlineContext → List Char → List Char → Option (List Char) → Element

/-- A text in brackets with an address in parentheses. -/
def targetPattern (start? : Option Char → List Char → Option (List Char)) (make : LinkMaker) :
    Pattern := fun ctx prev cs =>
  let found := do
    let body ← start? prev cs
    let (text, rest) ← bracketText? 1 body
    let t ← target? ctx.plain rest
    return Attempt.element (make ctx text t.address t.title) t.rest
  found.getD .none

/-- The name in brackets after a text, or the text itself. -/
def referenceName? (text rest : List Char) : Option (List Char × List Char) :=
  let rest := match rest with
    | c :: '[' :: more => if Text.isBlank c then '[' :: more else rest
    | _ => rest
  match rest with
  | '[' :: body =>
    let name := body.takeWhile (· != ']')
    match body.drop name.length with
    | _ :: after => some (Text.lowerList (if name.isEmpty then text else name), after)
    | [] => none
  | _ => none

/-- A text with runs of blanks replaced by single spaces. -/
def joinBlanks : Bool → List Char → List Char
  | _, [] => []
  | wasBlank, c :: cs =>
    if Text.isBlank c then (if wasBlank then joinBlanks true cs else ' ' :: joinBlanks true cs)
    else c :: joinBlanks false cs

/-- A text in brackets whose address is given by a reference; `short` references are named by the
text alone. -/
def referencePattern (start? : Option Char → List Char → Option (List Char)) (short : Bool)
    (make : LinkMaker) : Pattern := fun ctx prev cs =>
  let found := do
    let body ← start? prev cs
    let (text, rest) ← bracketText? 1 body
    let (name, rest) ←
      if short then some (Text.lowerList text, rest) else referenceName? text rest
    match ctx.references.lookup (joinBlanks false name) with
    | some r => return Attempt.element (make ctx text r.address r.title) rest
    | none => return Attempt.pass rest
  found.getD .none

/-- The words that begin an address in angle brackets. -/
def addressWords : List (List Char) :=
  ["http://", "https://", "ftp://", "ftps://"].map String.toList

/-- An address in angle brackets. -/
def addressPattern : Pattern := fun ctx _ cs =>
  match cs with
  | '<' :: body =>
    let address := body.takeWhile fun c => c != '<' && c != '>'
    let small := address.map Char.toLower
    match body.drop address.length with
    | '>' :: rest =>
      if addressWords.any (·.isPrefixOf small) then
        .element
          { tag := "a", attributes := [("href", ctx.plain address)], text := address,
            verbatim := true } rest
      else .none
    | _ => .none
  | _ => .none

/-- A mail address in angle brackets. -/
def mailPattern : Pattern := fun ctx _ cs =>
  match cs with
  | '<' :: body =>
    let address := body.takeWhile fun c => c != '<' && c != '>' && c != ' '
    let host := (address.reverse.takeWhile (· != '@')).reverse
    let user := address.take (address.length - host.length - 1)
    match body.drop address.length with
    | '>' :: rest =>
      if address.contains '@' && !host.isEmpty && !user.isEmpty && !user.contains '!' then
        let plain := ctx.plain address
        .mail ((Text.stripPrefix? "mailto:".toList plain).getD plain) rest
      else .none
    | _ => .none
  | _ => .none

/-- Two spaces at the end of a line. -/
def breakPattern : Pattern := fun _ _ cs =>
  match cs with
  | ' ' :: ' ' :: '\n' :: rest => .element { tag := "br" } rest
  | _ => .none

/-- The text of a comment after its start, and the text after the comment. -/
def commentBody? : List Char → Option (List Char × List Char)
  | [] => none
  | c :: cs =>
    match Text.stripPrefix? "-->".toList (c :: cs) with
    | some rest => some ("-->".toList, rest)
    | none =>
      if "<!--".toList.isPrefixOf (c :: cs) then none
      else (commentBody? cs).map fun (body, rest) => (c :: body, rest)

/-- The text of a tag after its less-than sign, and the text after the tag. -/
def tagBody? (cs : List Char) : Option (List Char × List Char) :=
  let (slash, named) : List Char × List Char :=
    match cs with
    | '/' :: rest => (['/'], rest)
    | _ => ([], cs)
  let name := named.takeWhile fun c => c != '<' && c != '>' && c != '@' && c != ' '
  let after := named.drop name.length
  let more :=
    if after.head? == some ' ' then after.takeWhile fun c => c != '<' && c != '>' else []
  if (name.headD ' ').isAlpha then
    match after.drop more.length with
    | '>' :: rest => some (slash ++ name ++ more ++ ['>'], rest)
    | _ => none
  else none

/-- A tag or a comment. -/
def htmlPattern : Pattern := fun ctx _ cs =>
  match cs with
  | '<' :: body =>
    let found :=
      match Text.stripPrefix? "!--".toList body with
      | some comment => (commentBody? comment).map fun (data, rest) => ("!--".toList ++ data, rest)
      | none => tagBody? body
    match found with
    | some (data, rest) => .html (ctx.source ('<' :: data)) rest
    | none => .none
  | _ => .none

/-- A reference to a character. -/
def entityPattern : Pattern := fun ctx _ cs =>
  match cs with
  | '&' :: body =>
    let isHex (c : Char) : Bool :=
      c.isDigit || ('a' ≤ c && c ≤ 'f') || ('A' ≤ c && c ≤ 'F')
    let (lead, part) : List Char × List Char :=
      match body with
      | '#' :: 'x' :: digits => (['#', 'x'], digits.takeWhile isHex)
      | '#' :: digits => (['#'], digits.takeWhile Char.isDigit)
      | _ => ([], body.takeWhile Char.isAlphanum)
    match body.drop (lead.length + part.length) with
    | ';' :: rest =>
      if part.isEmpty then .none else .html (ctx.source ('&' :: lead ++ part ++ [';'])) rest
    | _ => .none
  | _ => .none

/-- One to three asterisks or underscores that stand alone. -/
def alonePattern : Pattern := fun _ prev cs =>
  match cs with
  | c :: _ =>
    let signs := cs.takeWhile (· == c)
    let rest := cs.drop signs.length
    let begins := (prev.map Text.isBlank).getD true
    let ends := (rest.head?.map Text.isBlank).getD true
    if (c == '*' || c == '_') && signs.length ≤ 3 && begins && ends then .text signs rest
    else .none
  | [] => .none

/-- Emphasis by one kind of mark. -/
def emphasisPattern (kind : EmphasisKind) : Pattern := fun _ prev cs =>
  if cs.head? != some kind.sign then .none
  else
    match emphasis? kind prev cs with
    | some (e, rest) => .element e rest
    | none => .none

/-- The patterns, in order. -/
def patterns : List Pattern :=
  let link : LinkMaker := fun _ => linkElement
  [codePattern, escapePattern,
   referencePattern linkStart? false link, targetPattern linkStart? link,
   targetPattern imageStart? imageElement, referencePattern imageStart? false imageElement,
   referencePattern linkStart? true link, referencePattern imageStart? true imageElement,
   addressPattern, mailPattern, breakPattern, htmlPattern, entityPattern, alonePattern,
   emphasisPattern asterisks, emphasisPattern underscores]

/-! ### Searching -/

/-- What a pattern found: the text before it, what is held back, and the text after it. -/
structure Finding where
  before : List Char
  attempt : Attempt
  rest : List Char

/-- The first finding of a pattern in a text, `skip` characters of which are passed over. -/
def search? (p : Option Char → List Char → Attempt) :
    Nat → Option Char → List Char → Option Finding
  | _, _, [] => none
  | skip + 1, _, c :: cs =>
    (search? p skip (some c) cs).map fun f => { f with before := c :: f.before }
  | 0, prev, c :: cs =>
    let next (skip : Nat) : Option Finding :=
      (search? p skip (some c) cs).map fun f => { f with before := c :: f.before }
    match p prev (c :: cs) with
    | .none => next 0
    | .pass rest => next (cs.length - rest.length)
    | .text data rest => some ⟨[], .text data rest, rest⟩
    | .element e rest => some ⟨[], .element e rest, rest⟩
    | .html data rest => some ⟨[], .html data rest, rest⟩
    | .mail address rest => some ⟨[], .mail address rest, rest⟩

namespace Inline

/-- Holds something back. -/
def hold (s : Inline) (h : Held) : Inline × List Char :=
  ({ s with held := s.held.push h }, mark .node s.held.size)

/-- Adds a piece of HTML. -/
def addRaw (s : Inline) (html : List Char) : Inline × List Char :=
  ({ s with raw := s.raw.push html }, mark .raw s.raw.size)

/-- The characters of a text by number, as references. -/
def numbered (cs : List Char) : List Char :=
  cs.flatMap fun c => '&' :: '#' :: Nat.toDigits 10 c.toNat ++ [';']

/-- Searches the texts of a new element: its own text and those of its children by the later
patterns, the texts between its children by the same pattern as well. -/
def searchElement (searchText : Bool → Inline → List Char → Inline × List Char) (s : Inline)
    (e : Element) : Inline × Element :=
  if e.verbatim then (s, e)
  else
    let (s, text) := searchText false s e.text
    let (s, children) := e.children.foldl (fun (s, done) child =>
      let (s, text) := if child.verbatim then (s, child.text) else searchText false s child.text
      let (s, tail) := searchText true s child.tail
      (s, done ++ [{ child with text, tail }])) (s, [])
    (s, { e with text, children })

/-- Holds back what a pattern found. -/
def holdAttempt (searchText : Bool → Inline → List Char → Inline × List Char) (s : Inline) :
    Attempt → Inline × List Char
  | .text data _ => s.hold (.text data)
  | .html data _ =>
    let (s, m) := s.addRaw data
    s.hold (.text m)
  | .mail address _ =>
    let (s, text) := s.addRaw (numbered address)
    let (s, target) := s.addRaw (numbered ("mailto:".toList ++ address))
    s.hold (.element { tag := "a", attributes := [("href", target)], text, verbatim := true })
  | .element e _ =>
    let (s, e) := searchElement searchText s e
    s.hold (.element e)
  | .none => (s, [])
  | .pass _ => (s, [])

/-- Searches a text by one pattern, over and over. -/
def searchOne (refs : References) (searchText : Bool → Inline → List Char → Inline × List Char)
    (p : Pattern) : Nat → Inline → List Char → Inline × List Char
  | 0, s, cs => (s, cs)
  | n + 1, s, cs =>
    match search? (p ⟨refs, s.held⟩) 0 none cs with
    | some f =>
      let (s, m) := holdAttempt searchText s f.attempt
      searchOne refs searchText p n s (f.before ++ m ++ f.rest)
    | none => (s, cs)

/-- Searches a text by patterns in order; `nested` searches a text by given patterns. -/
def searchAll (refs : References)
    (nested : List Pattern → Inline → List Char → Inline × List Char) :
    List Pattern → Inline → List Char → Inline × List Char
  | [], s, cs => (s, cs)
  | p :: ps, s, cs =>
    let searchText (same : Bool) : Inline → List Char → Inline × List Char :=
      nested (if same then p :: ps else ps)
    let (s, cs) := searchOne refs searchText p (cs.length + 1) s cs
    searchAll refs nested ps s cs

/-- Searches a text by patterns, and the texts inside what they find, to a depth. -/
def searchText (refs : References) :
    Nat → List Pattern → Inline → List Char → Inline × List Char
  | 0, _, s, cs => (s, cs)
  | depth + 1, ps, s, cs =>
    if cs.isEmpty then (s, cs) else searchAll refs (searchText refs depth) ps s cs

/-! ### Putting elements in their places -/

/-- Adds text after the last of some elements, which are listed last first, or to the text before
them. -/
def linkText (lead : List Char) (found : List Element) (data : List Char) :
    List Char × List Element :=
  match found with
  | e :: es => (lead, { e with tail := e.tail ++ data } :: es)
  | [] => (lead ++ data, [])

/-- Cuts a text at its node marks: the text before the first element, and the elements, last
first. `expandElement` completes an element. -/
def cutText (s : Inline) (expandElement : Element → Element) :
    Nat → List Char → List Element → List Char → List Char × List Element
  | 0, lead, found, cs => linkText lead found cs
  | n + 1, lead, found, cs =>
    match splitMark? .node cs with
    | none => linkText lead found cs
    | some (before, i, rest) =>
      let (lead, found) := linkText lead found before
      match s.held[i]? with
      | some (.element e) => cutText s expandElement n lead (expandElement e :: found) rest
      | some (.text data) =>
        let (lead, found) := linkText lead found data
        cutText s expandElement n lead found rest
      | none => cutText s expandElement n lead found rest

/-- A text without its node marks: the text before the first element, and the elements. The texts
inside an element are treated likewise, to a depth. -/
def expand (s : Inline) : Nat → List Char → List Char × List Element
  | 0, cs => (cs, [])
  | depth + 1, cs =>
    let inside (cs : List Char) : List Char × List Element :=
      if isBlankText cs then (cs, []) else s.expand depth cs
    let expandElement (e : Element) : Element :=
      let (text, first) := inside e.text
      let children := e.children.flatMap fun child =>
        let (tail, following) := inside child.tail
        let (text, inner) := inside child.text
        { child with text, tail, children := inner ++ child.children } :: following
      { e with text, children := first ++ children }
    let (lead, found) := cutText s expandElement (cs.length + 1) [] [] cs
    (lead, found.reverse)

/-- Searches a text by all patterns and puts what they find in its place. -/
def complete (refs : References) (s : Inline) (cs : List Char) :
    Inline × List Char × List Element :=
  let (s, cs) := searchText refs (cs.length + 2) patterns s cs
  let (lead, found) := s.expand (s.held.size + 1) cs
  (s, lead, found)

/-- Visits every element of a list in turn. -/
def visitAll (visit : Inline → Element → Inline × List Element) (s : Inline)
    (es : List Element) : Inline × List Element :=
  es.foldl (fun (s, done) e =>
    let (s, visited) := visit s e
    (s, done ++ visited)) (s, [])

/-- Searches the texts of an element and of all below it. Elements found in the text after it are
given behind it, searched in the same way. -/
def visit (refs : References) : Nat → Inline → Element → Inline × List Element
  | 0, s, e => (s, [e])
  | depth + 1, s, e =>
    let visitBelow := visitAll (visit refs depth)
    let (s, text, found) :=
      if e.verbatim || e.text.isEmpty then (s, e.text, []) else complete refs s e.text
    let (s, tail, following) :=
      if e.tail.isEmpty then (s, [], []) else complete refs s e.tail
    let (s, children) :=
      if e.children.isEmpty then
        found.foldl (fun (s, done) child =>
          let (s, inner) := visitBelow s child.children
          (s, done ++ [{ child with children := inner }])) (s, [])
      else visitBelow s (found ++ e.children)
    let (s, following) := visitBelow s following
    (s, { e with text, tail, children } :: following)

end Inline

/-- Searches the texts of an article. `raw` holds the pieces of HTML taken out before; the result
holds those that were added. -/
def readInline (refs : References) (raw : Array (List Char)) (depth : Nat) (root : Element) :
    Element × Array (List Char) :=
  let (s, children) := Inline.visitAll (Inline.visit refs depth) { raw } root.children
  ({ root with children }, s.raw)

end StaticSite.Markdown
