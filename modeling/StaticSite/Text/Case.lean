import StaticSite.Text.CaseTable
import StaticSite.Text.Digit

/-!
# Letter case

* `lower` and `upper` map a text to small and capital letters. A capital sigma at the end of a word
  becomes the final small sigma, the dotted capital I becomes an i with a dot above, and some small
  letters have a capital form of several characters.
* `smallLetter` is the mapping of one character to one character, and `caseClass` joins to it the
  letters that share their other case, so that two characters match regardless of case exactly
  when their classes are equal.
-/

namespace StaticSite.Text

/-- The image of a code point under the first run that holds it. -/
def applyRuns (runs : List CaseRun) (n : Nat) : Option Nat := runs.findSome? (·.image? n)

/-- The small letter of a character, as one character. -/
def smallLetter (c : Char) : Char :=
  if c.toNat < 0x80 then c.toLower
  else match applyRuns smallRuns c.toNat with
    | some n => Char.ofNat n
    | none => c

/-- The letters that differ from another small letter but share its capital, each with the letter
that stands for the class. -/
def caseVariants : List (Nat × Nat) :=
  [(0x131, 0x69), (0x17F, 0x73), (0x3BC, 0xB5), (0x3B9, 0x345), (0x1FBE, 0x345), (0x1FD3, 0x390),
   (0x1FE3, 0x3B0), (0x3D0, 0x3B2), (0x3F5, 0x3B5), (0x3D1, 0x3B8), (0x3F0, 0x3BA),
   (0x3D6, 0x3C0), (0x3F1, 0x3C1), (0x3C3, 0x3C2), (0x3D5, 0x3C6), (0x1C80, 0x432),
   (0x1C81, 0x434), (0x1C82, 0x43E), (0x1C83, 0x441), (0x1C84, 0x442), (0x1C85, 0x442),
   (0x1C86, 0x44A), (0x1C87, 0x463), (0xA64B, 0x1C88), (0x1E9B, 0x1E61), (0xFB06, 0xFB05)]

/-- The representative of the characters that match `c` regardless of case. -/
def caseClass (c : Char) : Char :=
  let s := smallLetter c
  if s.toNat < 0x80 then s
  else match caseVariants.lookup s.toNat with
    | some n => Char.ofNat n
    | none => s

/-- Whether two characters match regardless of case. -/
def sameLetter (a b : Char) : Bool := caseClass a == caseClass b

/-- Whether a capital sigma between the characters `before` (nearest first) and `after` ends a
word: looking through ignorable characters, a letter with case precedes and none follows. -/
def isFinalSigma (before after : List Char) : Bool :=
  let cased (cs : List Char) : Bool :=
    match cs.dropWhile (inRanges caseIgnorableRanges) with
    | [] => false
    | c :: _ => inRanges casedRanges c
  cased before && !cased after

/-- The small letters of a text, `before` being what precedes it, nearest first. -/
def lowerFrom : List Char → List Char → List Char
  | _, [] => []
  | before, c :: rest =>
    let small : List Char :=
      if c.toNat == 0x3A3 then [Char.ofNat (if isFinalSigma before rest then 0x3C2 else 0x3C3)]
      else if c.toNat == 0x130 then ['i', Char.ofNat 0x307]
      else [smallLetter c]
    small ++ lowerFrom (c :: before) rest

/-- A text in small letters. -/
def lowerList (cs : List Char) : List Char := lowerFrom [] cs

/-- A text in small letters. -/
def lower (s : String) : String := String.ofList (lowerList s.toList)

/-- The capital form of a character, which may take several characters. -/
def capital (c : Char) : List Char :=
  if c.toNat < 0x80 then [c.toUpper]
  else match longCapitals.lookup c.toNat with
    | some ns => ns.map Char.ofNat
    | none => match applyRuns capitalRuns c.toNat with
      | some n => [Char.ofNat n]
      | none => [c]

/-- A text in capital letters. -/
def upper (s : String) : String := String.ofList (s.toList.flatMap capital)

/-- A text with its first character in capital form. -/
def capitalize (s : String) : String :=
  match s.toList with
  | [] => ""
  | c :: rest => String.ofList (capital c ++ rest)

end StaticSite.Text
