/-!
# Blank characters, words and lines

Blank characters are the ASCII blanks, the four information separators, and the spaces and
separators of the other scripts.

* `isBlank` is the class; `isWhiteSpace` leaves out the information separators.
* `strip`, `stripLeft` and `stripRight` remove blanks at the ends of a text; `stripChars` removes
  the characters of a given class there.
* `words` is the list of maximal runs of non-blank characters, and `squeeze` joins them by single
  spaces.
* `lines` is the list of the lines of a text, and `unlines` joins lines by line feeds.
-/

namespace StaticSite.Text

/-- Whether a character is blank. -/
def isBlank (c : Char) : Bool :=
  let n := c.toNat
  (0x09 ≤ n && n ≤ 0x0D) || (0x1C ≤ n && n ≤ 0x20) || n == 0x85 || n == 0xA0 || n == 0x1680 ||
    (0x2000 ≤ n && n ≤ 0x200A) || n == 0x2028 || n == 0x2029 || n == 0x202F || n == 0x205F ||
    n == 0x3000

/-- Whether a character is white space: a blank that is not an information separator. -/
def isWhiteSpace (c : Char) : Bool :=
  isBlank c && !(0x1C ≤ c.toNat && c.toNat ≤ 0x1F)

/-- Removes the characters of a class at the end of a text. -/
def dropRightWhile (p : Char → Bool) (cs : List Char) : List Char :=
  (cs.reverse.dropWhile p).reverse

/-- Removes the characters of a class at both ends of a text. -/
def stripChars (p : Char → Bool) (cs : List Char) : List Char :=
  dropRightWhile p (cs.dropWhile p)

/-- Removes blanks at both ends of a text. -/
def stripList (cs : List Char) : List Char := stripChars isBlank cs

/-- Removes blanks at both ends of a text. -/
def strip (s : String) : String := String.ofList (stripList s.toList)

/-- Removes blanks at the start of a text. -/
def stripLeft (s : String) : String := String.ofList (s.toList.dropWhile isBlank)

/-- Removes blanks at the end of a text. -/
def stripRight (s : String) : String := String.ofList (dropRightWhile isBlank s.toList)

/-- The maximal runs of characters outside a class, in order. -/
def splitRuns (isGap : Char → Bool) (cs : List Char) : List (List Char) :=
  go cs []
where
  /-- Splits the rest of a text, `run` being the run in progress, last character first. -/
  go : List Char → List Char → List (List Char)
    | [], run => if run.isEmpty then [] else [run.reverse]
    | c :: rest, run =>
      if isGap c then (if run.isEmpty then go rest [] else run.reverse :: go rest [])
      else go rest (c :: run)

/-- The words of a text: its maximal runs of non-blank characters. -/
def words (s : String) : List String := (splitRuns isBlank s.toList).map String.ofList

/-- The words of a text joined by single spaces. -/
def squeeze (s : String) : String := " ".intercalate (words s)

/-- Whether a text has no character that is not blank. -/
def isAllBlank (s : String) : Bool := s.toList.all isBlank

/-!
## Lines

A line ends at a line feed, a carriage return, the two together, a vertical tab, a form feed, one
of the first three information separators, the next-line control, or a line or paragraph
separator. `lines` lists the lines of a text without their ends; an end of line at the end of the
text starts no further line.
-/

/-- Whether a character ends a line. -/
def isLineBreak (c : Char) : Bool :=
  let n := c.toNat
  (0x0A ≤ n && n ≤ 0x0D) || (0x1C ≤ n && n ≤ 0x1E) || n == 0x85 || n == 0x2028 || n == 0x2029

/-- The lines of a text, the line in progress being `line`, last character first. -/
def linesFrom : List Char → List Char → List (List Char)
  | [], line => if line.isEmpty then [] else [line.reverse]
  | '\r' :: '\n' :: rest, line => line.reverse :: linesFrom rest []
  | c :: rest, line =>
    if isLineBreak c then line.reverse :: linesFrom rest [] else linesFrom rest (c :: line)

/-- The lines of a text without their ends. -/
def lines (s : String) : List String := (linesFrom s.toList []).map String.ofList

/-- Lines joined by line feeds. -/
def unlines (ls : List String) : String := "\n".intercalate ls

end StaticSite.Text
