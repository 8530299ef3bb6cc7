import StaticSite.Html.Markup
import StaticSite.Json.Printer

/-!
# Scripts of a page

A script runs in a scope of its own. Its data is JSON that holds none of the characters markup is
made of.

* `Html.inScript` writes these characters as escapes of JSON strings, where alone they can occur in
  JSON text.
* `script` is a script with given code, and `Json.inScript` a value as it stands in one.
-/

namespace StaticSite

/-- The escape for a character of markup. -/
def Html.escapeInScript (c : Char) : List Char :=
  if c == '<' then "\\u003c".toList
  else if c == '>' then "\\u003e".toList
  else if c == '&' then "\\u0026".toList
  else [c]

/-- JSON text as it may stand inside a script element. -/
def Html.inScript (json : String) : Markup :=
  ⟨String.ofList (json.toList.flatMap Html.escapeInScript)⟩

/-- A script, in a scope of its own. -/
def script (code : String) : Markup :=
  el "script" [] (html ("\n(function()\x7b\n" ++ code ++ "\n\x7d)();\n"))

/-- A value as it stands in a script. -/
def Json.inScript (v : Json) : String := (Html.inScript (v.render .ascii)).text

end StaticSite
