import StaticSite.Markdown.Mark

/-!
# Emphasis

Asterisks and underscores mark words that are stressed. A rule recognizes one shape of marks: text
between single or double marks, or two stresses inside each other between triple ones. Underscores
inside a word mark nothing.

`emphasis?` gives the element for the marks at the start of a text. What stands inside them is
searched by the later rules of the same kind of mark.
-/

namespace StaticSite.Markdown

/-- How the texts of a rule become elements. -/
inductive EmphasisShape where
  /-- One element around the text. -/
  | single (tag : String)
  /-- The inner element comes first inside the outer one. -/
  | innerFirst (outer inner : String)
  /-- The inner element comes last inside the outer one. -/
  | innerLast (outer inner : String)
deriving Repr

/-- The texts between the marks of a rule, and the text after the marks. -/
structure EmphasisMatch where
  first : List Char
  second : List Char := []
  rest : List Char

/-- A rule: its shape, and what it recognizes at the start of a text that a character precedes. -/
structure EmphasisRule where
  shape : EmphasisShape
  recognize : Option Char → List Char → Option EmphasisMatch

/-- A kind of mark with its rules, in order. -/
structure EmphasisKind where
  sign : Char
  rules : List EmphasisRule

/-- Looks for the shortest beginning of a text, of at least `least` characters, after which `stop`
gives something; `stop` is told the character before. -/
def shortest? {β : Type} (stop : Char → List Char → Option β) (least : Nat) (prev : Char)
    (cs : List Char) : Option (List Char × β) :=
  let here := if least == 0 then stop prev cs else none
  match here with
  | some b => some ([], b)
  | none =>
    match cs with
    | [] => none
    | c :: rest => (shortest? stop (least - 1) c rest).map fun (before, b) => (c :: before, b)

/-- The text after `n` signs. -/
def afterSigns? (sign : Char) (n : Nat) (cs : List Char) : Option (List Char) :=
  Text.stripPrefix? (List.replicate n sign) cs

/-- Whether a text begins with a sign. -/
def beginsWith (sign : Char) (cs : List Char) : Bool := cs.head? == some sign

/-- Whether a text begins with a character of a word. -/
def beginsWord (cs : List Char) : Bool := (cs.head?.map Text.isWordChar).getD false

/-- Three signs, a text, `inner` signs, a text, and the signs that are left. -/
def tripled (sign : Char) (inner : Nat) (_prev : Option Char) (cs : List Char) :
    Option EmphasisMatch := do
  let body ← afterSigns? sign 3 cs
  let close (_ : Char) (cs : List Char) : Option (List Char × List Char) := do
    let body ← afterSigns? sign inner cs
    shortest? (fun _ cs => afterSigns? sign (3 - inner) cs) 0 sign body
  let (first, second, rest) ← shortest? close 1 sign body
  return { first, second, rest }

/-- Two asterisks, a text without any, one asterisk, a text, and three asterisks. -/
def strongThenEm (_prev : Option Char) (cs : List Char) : Option EmphasisMatch := do
  let body ← afterSigns? '*' 2 cs
  let first := body.takeWhile (· != '*')
  let inner ← afterSigns? '*' 1 (body.drop first.length)
  if first.isEmpty || beginsWith '*' inner then none
  else
    let (second, rest) ← shortest? (fun _ cs => afterSigns? '*' 3 cs) 1 '*' inner
    return { first, second, rest }

/-- Two asterisks, a text, and two asterisks. -/
def doubled (_prev : Option Char) (cs : List Char) : Option EmphasisMatch := do
  let body ← afterSigns? '*' 2 cs
  let (first, rest) ← shortest? (fun _ cs => afterSigns? '*' 2 cs) 1 '*' body
  return { first, rest }

/-- An asterisk, a text without any, and an asterisk. -/
def starred (_prev : Option Char) (cs : List Char) : Option EmphasisMatch := do
  let body ← afterSigns? '*' 1 cs
  let first := body.takeWhile (· != '*')
  let rest ← afterSigns? '*' 1 (body.drop first.length)
  if first.isEmpty then none else return { first, rest }

/-- Whether a mark may begin after a character. -/
def mayBegin (prev : Option Char) : Bool := !(prev.map Text.isWordChar).getD false

/-- Underscores around a text, `n` at each end, not inside a word. -/
def underscored (n : Nat) (prev : Option Char) (cs : List Char) : Option EmphasisMatch := do
  let body ← afterSigns? '_' n cs
  let close (last : Char) (cs : List Char) : Option (List Char) := do
    let rest ← afterSigns? '_' n cs
    if last == '_' || beginsWord rest then none else some rest
  if !mayBegin prev || beginsWith '_' body then none
  else
    let (first, rest) ← shortest? close 1 '_' body
    return { first, rest }

/-- Two underscores, a text, one underscore, a text, and three underscores. -/
def underscoredTwice (prev : Option Char) (cs : List Char) : Option EmphasisMatch := do
  let body ← afterSigns? '_' 2 cs
  let finish (_ : Char) (cs : List Char) : Option (List Char) := do
    let rest ← afterSigns? '_' 3 cs
    if beginsWord rest then none else some rest
  let close (last : Char) (cs : List Char) : Option (List Char × List Char) := do
    let inner ← afterSigns? '_' 1 cs
    if Text.isWordChar last || beginsWith '_' inner then none
    else shortest? finish 1 '_' inner
  if !mayBegin prev || beginsWith '_' body then none
  else
    let (first, second, rest) ← shortest? close 1 '_' body
    return { first, second, rest }

/-- The rules for asterisks. -/
def asterisks : EmphasisKind :=
  ⟨'*',
    [⟨.innerFirst "strong" "em", tripled '*' 1⟩,
     ⟨.innerFirst "em" "strong", tripled '*' 2⟩,
     ⟨.innerLast "strong" "em", strongThenEm⟩,
     ⟨.single "strong", doubled⟩,
     ⟨.single "em", starred⟩]⟩

/-- The rules for underscores. -/
def underscores : EmphasisKind :=
  ⟨'_',
    [⟨.innerFirst "strong" "em", tripled '_' 1⟩,
     ⟨.innerFirst "em" "strong", tripled '_' 2⟩,
     ⟨.innerLast "strong" "em", underscoredTwice⟩,
     ⟨.single "strong", underscored 2⟩,
     ⟨.single "em", underscored 1⟩]⟩

namespace Element

/-- Adds text at the end of an element. -/
def addText (e : Element) (data : List Char) : Element :=
  if data.isEmpty then e
  else
    match e.last? with
    | some child => e.setLast { child with tail := child.tail ++ data }
    | none => { e with text := e.text ++ data }

end Element

/-- A place inside marks: the element that is filled, the text since its last child (reversed), the
character before the place, and the rest. -/
structure EmphasisPlace where
  parent : Element
  pending : List Char
  prev : Option Char
  rest : List Char

/-- Applies the rules of a list, one after the other, each where the one before left off. -/
def applyRules (build : Nat → EmphasisShape → EmphasisMatch → Element) :
    List (Nat × EmphasisRule) → EmphasisPlace → Bool → EmphasisPlace × Bool
  | [], p, matched => (p, matched)
  | (i, rule) :: rules, p, matched =>
    match rule.recognize p.prev p.rest with
    | some m =>
      let parent := (p.parent.addText p.pending.reverse).push (build i rule.shape m)
      let passed := p.rest.take (p.rest.length - m.rest.length)
      applyRules build rules ⟨parent, [], passed.getLast?, m.rest⟩ true
    | none => applyRules build rules p matched

/-- The rules after one, with their numbers. -/
def EmphasisKind.rulesAfter (kind : EmphasisKind) (i : Nat) : List (Nat × EmphasisRule) :=
  ((List.range kind.rules.length).zip kind.rules).filter fun (j, _) => i < j

/-- Fills an element with the text inside marks that rule `i` recognized. -/
def fillEmphasis (kind : EmphasisKind) (i : Nat) : Nat → EmphasisPlace → Element
  | 0, p => p.parent.addText (p.pending.reverse ++ p.rest)
  | n + 1, p =>
    match p.rest with
    | [] => p.parent.addText p.pending.reverse
    | c :: rest =>
      let skip : EmphasisPlace := { p with pending := c :: p.pending, prev := some c, rest }
      if c != kind.sign then fillEmphasis kind i n skip
      else
        let fill (j : Nat) (parent : Element) (data : List Char) : Element :=
          fillEmphasis kind j n ⟨parent, [], none, data⟩
        let build (j : Nat) (shape : EmphasisShape) (m : EmphasisMatch) : Element :=
          match shape with
          | .single tag => fill j { tag } m.first
          | .innerFirst outer inner =>
            fill j { tag := outer, children := [fill j { tag := inner } m.first] } m.second
          | .innerLast outer inner =>
            (fill j { tag := outer } m.first).push (fill j { tag := inner } m.second)
        match applyRules build (kind.rulesAfter i) p false with
        | (p, true) => fillEmphasis kind i n p
        | (_, false) => fillEmphasis kind i n skip

/-- The element for the marks at the start of a text that a character precedes, and the text after
them. -/
def emphasis? (kind : EmphasisKind) (prev : Option Char) (cs : List Char) :
    Option (Element × List Char) :=
  let indexed := (List.range kind.rules.length).zip kind.rules
  indexed.findSome? fun (i, rule) =>
    (rule.recognize prev cs).map fun m =>
      let fill (parent : Element) (data : List Char) : Element :=
        fillEmphasis kind i (data.length + 1) ⟨parent, [], none, data⟩
      let element :=
        match rule.shape with
        | .single tag => fill { tag } m.first
        | .innerFirst outer inner =>
          fill { tag := outer, children := [fill { tag := inner } m.first] } m.second
        | .innerLast outer inner =>
          (fill { tag := outer } m.first).push (fill { tag := inner } m.second)
      (element, m.rest)

end StaticSite.Markdown
