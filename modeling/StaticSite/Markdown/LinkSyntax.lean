import StaticSite.Markdown.Mark
import StaticSite.Text.Blank

/-!
# Links in articles

A link is a text in brackets followed by an address in parentheses, `[text](address "title")`.

* `bracketText?` finds the closing bracket of a text; brackets may be nested.
* `target?` reads the address and the title. Parentheses in an address must match. From the first
  quote on, a title is assumed; if it does not end right before a closing parenthesis, the address
  ends at the parenthesis that would match without it.
-/

namespace StaticSite.Markdown

/-- The text up to the bracket that closes it, `depth` brackets being open, and the text after the
bracket. -/
def bracketText? : Nat → List Char → Option (List Char × List Char)
  | _, [] => none
  | depth, c :: cs =>
    if c == ']' && depth ≤ 1 then some ([], cs)
    else
      let depth := if c == ']' then depth - 1 else if c == '[' then depth + 1 else depth
      (bracketText? depth cs).map fun (text, rest) => (c :: text, rest)

/-- The address of a link, its title, and the text after the link. -/
structure LinkTarget where
  address : List Char
  title : Option (List Char)
  rest : List Char
deriving Repr

/-- A quote in an address: the character, the place after it, and the place after the last quote of
its kind. -/
structure QuoteSpan where
  sign : Char
  start : Nat
  stop : Option Nat := none
deriving Repr

/-- The state of reading an address. Places count from the start of the address. -/
structure TargetScan where
  place : Nat := 0
  depth : Nat := 1
  /-- The parentheses that would be open if the quote began no title. -/
  fallback : Nat := 1
  /-- Where the address ends if the quote began no title. -/
  fallbackEnd : Nat := 0
  quote : Option QuoteSpan := none
  otherQuote : Option QuoteSpan := none
  /-- The last character that is no space. -/
  last : Option Char := none
deriving Repr

namespace TargetScan

/-- Whether a quoted title has just ended. -/
def justEnded (s : TargetScan) (q : Option QuoteSpan) : Bool :=
  match q with
  | some q => q.stop.isSome && s.last == some q.sign
  | none => false

/-- Reads an opening parenthesis. -/
def onOpen (s : TargetScan) : TargetScan :=
  if s.quote.isNone then { s with depth := s.depth + 1 }
  else { s with fallback := s.fallback - 1 }

/-- Reads a closing parenthesis. -/
def onClose (s : TargetScan) : TargetScan :=
  if s.justEnded s.quote || s.justEnded s.otherQuote then { s with depth := 0 }
  else if s.quote.isNone then { s with depth := s.depth - 1 }
  else if s.fallback == 0 then s
  else
    { s with
      fallback := s.fallback - 1
      fallbackEnd := if s.fallback == 1 then s.place + 1 else s.fallbackEnd }

/-- Reads a quote. -/
def onQuote (s : TargetScan) (c : Char) : TargetScan :=
  let here := s.place + 1
  match s.quote, s.otherQuote with
  -- Inside of a title, parentheses are counted anew; the count so far is what to fall back on.
  | none, _ => { s with fallback := s.depth, depth := 1, quote := some ⟨c, here, none⟩ }
  | some q, other =>
    if c == q.sign then { s with quote := some { q with stop := some here } }
    else
      match other with
      | none => { s with otherQuote := some ⟨c, here, none⟩ }
      | some o => { s with otherQuote := some { o with stop := some here } }

/-- Reads a character. -/
def step (s : TargetScan) (c : Char) : TargetScan :=
  let s :=
    if c == '(' then s.onOpen
    else if c == ')' then s.onClose
    else if c == '\'' || c == '"' then s.onQuote c
    else s
  { s with place := s.place + 1 }

/-- The part of a text between two places. -/
def slice (cs : List Char) (start stop : Nat) : List Char := (cs.drop start).take (stop - start)

/-- The target that ends at the current place. -/
def result (s : TargetScan) (body : List Char) : LinkTarget :=
  let titled (q : QuoteSpan) : LinkTarget :=
    ⟨body.take (q.start - 1), some (slice body q.start (q.stop.getD 1 - 1)), body.drop s.place⟩
  match s.quote, s.otherQuote with
  | some q, other =>
    if s.justEnded (some q) then titled q
    else
      match other with
      | some o =>
        if s.justEnded (some o) then titled o
        else ⟨body.take (s.place - 1), none, body.drop s.place⟩
      | none => ⟨body.take (s.place - 1), none, body.drop s.place⟩
  | none, _ => ⟨body.take (s.place - 1), none, body.drop s.place⟩

/-- Reads characters until the parentheses are closed. -/
def run (body : List Char) : TargetScan → List Char → Option LinkTarget
  | s, [] =>
    if s.fallback == 0 then
      some ⟨body.take (s.fallbackEnd - 1), none, body.drop s.fallbackEnd⟩
    else none
  | s, c :: cs =>
    let s := s.step c
    if s.depth == 0 then some (s.result body)
    else run body (if c == ' ' then s else { s with last := some c }) cs

end TargetScan

/-- A quoted text and what follows it. -/
def quotedTitle? : List Char → Option (List Char × List Char)
  | [] => none
  | q :: cs =>
    if q == '\'' || q == '"' then
      let title := cs.takeWhile (· != q)
      match cs.drop title.length with
      | _ :: rest => some (title, rest)
      | [] => none
    else none

/-- A target whose address stands in angle brackets, after the opening parenthesis. -/
def angleTarget? : List Char → Option LinkTarget
  | '<' :: cs =>
    let address := cs.takeWhile fun c => c != '<' && c != '>'
    match cs.drop address.length with
    | '>' :: rest =>
      let rest := rest.dropWhile Text.isBlank
      let (title, rest) :=
        match quotedTitle? rest with
        | some (title, rest) => (some title, rest.dropWhile Text.isBlank)
        | none => (none, rest)
      match rest with
      | ')' :: rest => some ⟨Text.stripList address, title, rest⟩
      | _ => none
    | _ => none
  | _ => none

/-- A text without the quotes around it. -/
def dropQuotes (cs : List Char) : List Char :=
  match cs with
  | [c] => if c == '"' || c == '\'' then [] else cs
  | c :: _ => if (c == '"' || c == '\'') && cs.getLast? == some c then cs.dropLast.drop 1 else cs
  | [] => []

/-- The target at the start of a text; `plain` resolves the marks in it. -/
def target? (plain : List Char → List Char) : List Char → Option LinkTarget
  | '(' :: cs =>
    let body := cs.dropWhile Text.isBlank
    let found :=
      match angleTarget? body with
      | some t => some t
      | none => TargetScan.run body {} body
    found.map fun t =>
      { t with
        address := Text.stripList (plain t.address)
        title := t.title.map fun title =>
          (dropQuotes (plain (Text.stripList title))).map fun c =>
            if Text.isBlank c then ' ' else c }
  | _ => none

end StaticSite.Markdown
