/-!
# Searching and cutting

Substrings are searched from the left, and matches do not overlap.

* `contains` and `splitAt?` look for a pattern; `splitAt?` gives what lies before its first match
  and what lies after it.
* `replaceAll` replaces every match of a pattern, `splitOn` cuts a text at every match.
* `stripPrefix?` and `stripSuffix?` cut a text that begins or ends in a given way.
-/

namespace StaticSite.Text

/-- The rest of a text that begins with `pat`. -/
def stripPrefix? (pat cs : List Char) : Option (List Char) := pat.isPrefixOf? cs

/-- A text that ends with `pat`, less that end. -/
def stripSuffix? (pat cs : List Char) : Option (List Char) :=
  (pat.reverse.isPrefixOf? cs.reverse).map List.reverse

/-- What lies before the first match of `pat` and what lies after it. -/
def splitAt? (pat : List Char) : List Char → Option (List Char × List Char)
  | [] => if pat.isEmpty then some ([], []) else none
  | c :: cs =>
    match pat.isPrefixOf? (c :: cs) with
    | some rest => some ([], rest)
    | none => (splitAt? pat cs).map fun r => (c :: r.1, r.2)

/-- Whether `pat` occurs in a text. -/
def containsList (pat cs : List Char) : Bool := (splitAt? pat cs).isSome

/-- Whether `pat` occurs in a text. -/
def contains (s pat : String) : Bool := containsList pat.toList s.toList

/-- Replaces every match of the pattern `p :: ps`, from the left; `skip` characters still belong
to a match that has been replaced. -/
def replaceFrom (p : Char) (ps by_ : List Char) : Nat → List Char → List Char
  | _, [] => []
  | skip + 1, _ :: cs => replaceFrom p ps by_ skip cs
  | 0, c :: cs =>
    if (p :: ps).isPrefixOf (c :: cs) then by_ ++ replaceFrom p ps by_ ps.length cs
    else c :: replaceFrom p ps by_ 0 cs

/-- Replaces every match of `pat`, from the left; an empty pattern has no match. -/
def replaceList (pat by_ cs : List Char) : List Char :=
  match pat with
  | [] => cs
  | p :: ps => replaceFrom p ps by_ 0 cs

/-- Replaces every match of `pat`, from the left; an empty pattern has no match. -/
def replaceAll (s pat by_ : String) : String :=
  String.ofList (replaceList pat.toList by_.toList s.toList)

/-- The pieces of a text between the characters equal to `sep`. -/
def splitOnChar (sep : Char) (cs : List Char) : List (List Char) :=
  cs.splitOn sep

/-- The pieces of a text between the matches of the pattern `p :: ps`, the piece in progress being
`piece`, last character first. -/
def splitFrom (p : Char) (ps : List Char) : Nat → List Char → List Char → List (List Char)
  | _, [], piece => [piece.reverse]
  | skip + 1, _ :: cs, piece => splitFrom p ps skip cs piece
  | 0, c :: cs, piece =>
    if (p :: ps).isPrefixOf (c :: cs) then piece.reverse :: splitFrom p ps ps.length cs []
    else splitFrom p ps 0 cs (c :: piece)

/-- The pieces of a text between the matches of `pat`; an empty pattern has no match. -/
def splitOn (s pat : String) : List String :=
  match pat.toList with
  | [] => [s]
  | p :: ps => (splitFrom p ps 0 s.toList []).map String.ofList

/-- Whether a text begins with `pat`. -/
def startsWith (s pat : String) : Bool := pat.toList.isPrefixOf s.toList

/-- Whether a text ends with `pat`. -/
def endsWith (s pat : String) : Bool := pat.toList.reverse.isPrefixOf s.toList.reverse

/-- The first `n` characters of a text. -/
def take (n : Nat) (s : String) : String := String.ofList (s.toList.take n)

/-- A text less its first `n` characters. -/
def drop (n : Nat) (s : String) : String := String.ofList (s.toList.drop n)

/-- Keeps the characters of a class. -/
def filter (p : Char → Bool) (s : String) : String := String.ofList (s.toList.filter p)

end StaticSite.Text
