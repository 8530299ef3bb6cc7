import StaticSite.Markdown.Block

/-!
# Writing articles

`Element.html` writes an element as HTML. Ampersands that begin a reference are kept, others are
escaped; attributes are ordered by name.

Before an article is written, `layOut` puts line feeds around its blocks, and `resolve` replaces the
marks of escaped characters. Afterwards `restoreRaw` puts the pieces of HTML in the places of their
marks; a block that makes up a whole paragraph replaces the paragraph.
-/

namespace StaticSite.Markdown

/-- Whether the text after an ampersand makes a reference of it. -/
def isReferenceBody (cs : List Char) : Bool :=
  let isHex (c : Char) : Bool :=
    c.isDigit || ('a' ≤ c.toLower && c.toLower ≤ 'f')
  let ends (isPart : Char → Bool) (cs : List Char) : Bool :=
    let part := cs.takeWhile isPart
    !part.isEmpty && (cs.drop part.length).head? == some ';'
  match cs with
  | '#' :: 'x' :: rest => ends isHex rest
  | '#' :: 'X' :: rest => ends isHex rest
  | '#' :: rest => ends Char.isDigit rest
  | _ => ends Char.isAlphanum cs

/-- Escapes the ampersands that begin no reference. -/
def escapeAmpersands : List Char → List Char
  | [] => []
  | c :: cs =>
    (if c == '&' && !isReferenceBody cs then "&amp;".toList else [c]) ++ escapeAmpersands cs

/-- Text as HTML. -/
def escapeData (cs : List Char) : List Char :=
  (escapeAmpersands cs).flatMap fun c =>
    if c == '<' then "&lt;".toList else if c == '>' then "&gt;".toList else [c]

/-- The value of an attribute as HTML. -/
def escapeValue (cs : List Char) : List Char :=
  (escapeData cs).flatMap fun c => if c == '"' then "&quot;".toList else [c]

/-- Elements that are written without an end tag. -/
def emptyTags : List String := ["br", "hr", "img"]

/-- The attributes of an element, ordered by name. -/
def attributesHtml (attributes : List (String × List Char)) : List Char :=
  (attributes.mergeSort fun a b => a.1 ≤ b.1).flatMap fun (name, value) =>
    ' ' :: name.toList ++ "=\"".toList ++ escapeValue value ++ ['"']

mutual

/-- An element as HTML, with the text after it. -/
def Element.html : Element → List Char
  | ⟨tag, attributes, text, _, children, tail⟩ =>
    let start := '<' :: tag.toList ++ attributesHtml attributes
    let whole :=
      if emptyTags.contains tag then start ++ " />".toList
      else
        start ++ '>' :: escapeData text ++ elementsHtml children ++
          '<' :: '/' :: tag.toList ++ ['>']
    whole ++ escapeData tail

/-- Elements as HTML, one after the other. -/
def elementsHtml : List Element → List Char
  | [] => []
  | e :: es => e.html ++ elementsHtml es

end

/-- Whether a text is blank. -/
def isBlankText (cs : List Char) : Bool := cs.all Text.isBlank

/-- A line feed in place of a blank tail. -/
def layOutTail (e : Element) : Element :=
  if isBlankText e.tail then { e with tail := ['\n'] } else e

/-- A line feed in place of blank text before a block. -/
def layOutText (e : Element) : Element :=
  let begins := (e.children.head?.map fun c => isBlockTag c.tag).getD false
  if isBlankText e.text && begins then { e with text := ['\n'] } else e

mutual

/-- Puts line feeds around the blocks inside an element, and after it. -/
def Element.layOut : Element → Element
  | ⟨tag, attributes, text, verbatim, children, tail⟩ =>
    if isBlockTag tag && tag != "pre" then
      layOutTail (layOutText ⟨tag, attributes, text, verbatim, layOutAll children, tail⟩)
    else layOutTail ⟨tag, attributes, text, verbatim, children, tail⟩

/-- Puts line feeds around the blocks of a list. -/
def layOutAll : List Element → List Element
  | [] => []
  | e :: es => (if isBlockTag e.tag then e.layOut else e) :: layOutAll es

end

/-- A line feed after a line break, before the text that follows. -/
def breakLine (e : Element) : Element :=
  if e.tag != "br" then e
  else { e with tail := if isBlankText e.tail then ['\n'] else '\n' :: e.tail }

/-- Blank lines at the end of code become one line feed. -/
def trimCode (e : Element) : Element :=
  match e.children with
  | code :: others =>
    if e.tag == "pre" && code.tag == "code" && code.children.isEmpty then
      let text := Text.dropRightWhile Text.isBlank code.text ++ ['\n']
      { e with children := { code with text } :: others }
    else e
  | [] => e

/-- Replaces the marks of escaped characters in an element's own texts; code keeps its text. -/
def unescapeOwn (e : Element) : Element :=
  { e with
    text := if e.tag == "code" then e.text else unescape e.text
    tail := unescape e.tail
    attributes := e.attributes.map fun (name, value) => (name, unescape value) }

mutual

/-- Changes every element of a tree. -/
def Element.mapAll (f : Element → Element) : Element → Element
  | ⟨tag, attributes, text, verbatim, children, tail⟩ =>
    f ⟨tag, attributes, text, verbatim, mapElements f children, tail⟩

/-- Changes every element of a list of trees. -/
def mapElements (f : Element → Element) : List Element → List Element
  | [] => []
  | e :: es => e.mapAll f :: mapElements f es

end

/-- An article as it is written. -/
def Element.resolve (root : Element) : Element :=
  root.layOut.mapAll fun e => unescapeOwn (trimCode (breakLine e))

/-! ### Raw HTML -/

/-- Whether a piece of HTML is a block, or no element at all. -/
def isBlockHtml (cs : List Char) : Bool :=
  let ofName (name : List Char) : Bool :=
    match name with
    | [] => false
    | c :: _ =>
      c == '!' || c == '?' || c == '@' || c == '%' ||
        isBlockTag (String.ofList (Text.dropRightWhile (· == '/') (Text.lowerList name)))
  let nameOf (cs : List Char) : List Char := cs.takeWhile fun c => c != ' ' && c != '>'
  match cs with
  | '<' :: '/' :: rest => ofName (if (nameOf rest).isEmpty then ['/'] else nameOf rest)
  | '<' :: rest => ofName (nameOf rest)
  | _ => false

/-- The mark of raw HTML at the start of a text, whether it makes up a paragraph, and the text
after it. -/
def rawMark? (cs : List Char) : Option (Nat × Bool × List Char) :=
  let wrapped :=
    (Text.stripPrefix? "<p>".toList cs).bind fun inner =>
      (mark? .raw inner).bind fun (n, rest) =>
        (Text.stripPrefix? "</p>".toList rest).map fun rest => (n, true, rest)
  match wrapped with
  | some r => some r
  | none => (mark? .raw cs).map fun (n, rest) => (n, false, rest)

/-- Puts raw HTML in the places of its marks, `restore` being applied to each piece and `skip`
characters of the text belonging to a mark. -/
def restoreWith (raw : Array (List Char)) (restore : List Char → List Char) :
    Nat → List Char → List Char
  | _, [] => []
  | skip + 1, _ :: cs => restoreWith raw restore skip cs
  | 0, c :: cs =>
    match rawMark? (c :: cs) with
    | some (n, wrapped, rest) =>
      let html := (raw[n]?).getD []
      let html :=
        if !wrapped || isBlockHtml html then html
        else "<p>".toList ++ html ++ "</p>".toList
      restore html ++ restoreWith raw restore (cs.length - rest.length) cs
    | none => c :: restoreWith raw restore 0 cs

/-- Puts raw HTML in the places of its marks, also inside raw HTML, to a depth. -/
def restoreRaw (raw : Array (List Char)) : Nat → List Char → List Char
  | 0, cs => cs
  | depth + 1, cs => restoreWith raw (restoreRaw raw depth) 0 cs

end StaticSite.Markdown
