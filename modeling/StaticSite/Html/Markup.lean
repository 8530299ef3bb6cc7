/-!
# Markup

A `Markup` is a fragment of HTML that may stand in a page as it is. Text becomes markup by
`escape`, which writes the five characters with a meaning in HTML as references; `html` takes a
fragment that is known to be markup.

* `Markup.concat` and `Markup.joinWith` put fragments together.
* `Markup.orEmpty` and `Markup.whenSome` leave a fragment out.
-/

namespace StaticSite

/-- A fragment of HTML. -/
structure Markup where
  text : String
deriving DecidableEq, Repr

namespace Markup

/-- The empty fragment. -/
def empty : Markup := ⟨""⟩

instance : Append Markup where
  append a b := ⟨a.text ++ b.text⟩

instance : Inhabited Markup := ⟨empty⟩

/-- Whether a fragment is empty. -/
def isEmpty (m : Markup) : Bool := m.text.isEmpty

/-- The reference for a character with a meaning in HTML. -/
def escapeChar (c : Char) : List Char :=
  if c == '&' then "&amp;".toList
  else if c == '<' then "&lt;".toList
  else if c == '>' then "&gt;".toList
  else if c == '\'' then "&#39;".toList
  else if c == '"' then "&#34;".toList
  else [c]

/-- A text as markup. -/
def escape (s : String) : Markup := ⟨String.ofList (s.toList.flatMap escapeChar)⟩

/-- Fragments one after the other. -/
def concat (ms : List Markup) : Markup := ⟨String.join (ms.map (·.text))⟩

/-- Fragments with a separator between them. -/
def joinWith (sep : String) (ms : List Markup) : Markup := ⟨sep.intercalate (ms.map (·.text))⟩

/-- A fragment, if a condition holds. -/
def when (c : Bool) (m : Markup) : Markup := if c then m else empty

/-- The fragment made of a value, if there is one. -/
def whenSome {α : Type} (o : Option α) (f : α → Markup) : Markup :=
  match o with
  | some a => f a
  | none => empty

end Markup

/-- A fragment that is known to be markup. -/
def html (s : String) : Markup := ⟨s⟩

/-- A text as markup. -/
def esc (s : String) : Markup := Markup.escape s

/-!
## Elements

Markup made of elements.

* `attr` is an attribute with a value, whose text is escaped, and `flag` an attribute without one.
* `el` is an element with its contents, `leaf` an element that has none.
* `startTag` and `endTag` are the two halves of an element whose contents are laid out in lines.
-/

/-- An attribute with a value. -/
def attr (name value : String) : Markup := html (" " ++ name ++ "=\"") ++ esc value ++ html "\""

/-- An attribute without a value. -/
def flag (name : String) : Markup := html (" " ++ name)

/-- An attribute that is written if there is a value for it. -/
def attr? (name : String) (value : Option String) : Markup := Markup.whenSome value (attr name)

/-- The tag that begins an element. -/
def startTag (name : String) (attrs : List Markup) : Markup :=
  html ("<" ++ name) ++ Markup.concat attrs ++ html ">"

/-- The tag that ends an element. -/
def endTag (name : String) : Markup := html ("</" ++ name ++ ">")

/-- An element with its contents. -/
def el (name : String) (attrs : List Markup) (contents : Markup) : Markup :=
  startTag name attrs ++ contents ++ endTag name

/-- An element without contents. -/
def leaf (name : String) (attrs : List Markup) : Markup := startTag name attrs

/-- The class of an element. -/
def cls (name : String) : Markup := attr "class" name

/-- A fragment set in by a number of spaces. -/
def Markup.indent (n : Nat) (m : Markup) : Markup :=
  html (String.ofList (List.replicate n ' ')) ++ m

/-- Fragments, one to a line. -/
def Markup.lines (ms : List Markup) : Markup := Markup.joinWith "\n" ms

/-- Fragments, each with a line feed after it. -/
def Markup.rows (ms : List Markup) : Markup := Markup.concat (ms.map (· ++ html "\n"))

/-- Fragments one after the other, those without text left out, with line feeds between them. -/
def Markup.stack (ms : List Markup) : Markup := Markup.lines (ms.filter fun m => !m.isEmpty)

end StaticSite
