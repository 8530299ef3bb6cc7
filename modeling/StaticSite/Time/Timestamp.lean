/-!
# Dates and points in time

* `Date.dayNumber` counts days from 1 January 1970, and `Date.ofDayNumber` is its inverse.
* `Timestamp.micros` is the instant of a timestamp, in microseconds from the start of 1970.
* `Timestamp.parse?` reads a text.
-/

namespace StaticSite

/-!
## Calendar dates

Dates of the proleptic Gregorian calendar.

* `Date.dayNumber` counts days from 1 January 1970, and `Date.ofDayNumber` is its inverse.
* `Date.isoText` is the text `YYYY-MM-DD`, `Date.longText` the text `Month D, YYYY`.
-/

/-- A date of the Gregorian calendar. -/
structure Date where
  year : Nat
  month : Nat
  day : Nat
deriving DecidableEq, Repr

namespace Date

/-- Whether a year has a leap day. -/
def isLeap (year : Nat) : Bool := year % 4 == 0 && (year % 100 != 0 || year % 400 == 0)

/-- The number of days of a month. -/
def daysInMonth (year month : Nat) : Nat :=
  if month == 2 then (if isLeap year then 29 else 28)
  else if month == 4 || month == 6 || month == 9 || month == 11 then 30
  else 31

/-- Whether a date exists. -/
def isValid (d : Date) : Bool :=
  1 ≤ d.year && d.year ≤ 9999 && 1 ≤ d.month && d.month ≤ 12 && 1 ≤ d.day &&
    d.day ≤ daysInMonth d.year d.month

/-- The number of days from 1 January 1970. Years are counted from March, so that the leap day is
the last day of its year. -/
def dayNumber (d : Date) : Int :=
  let y : Int := if d.month ≤ 2 then (d.year : Int) - 1 else d.year
  let m : Int := ((d.month : Int) + 9) % 12
  365 * y + y / 4 - y / 100 + y / 400 + (153 * m + 2) / 5 + (d.day : Int) - 1 - 719468

/-- The date that lies a number of days after 1 January 1970. -/
def ofDayNumber (n : Int) : Date :=
  let z := n + 719468
  let era := z / 146097
  let dayOfEra := z % 146097
  let yearOfEra := (dayOfEra - dayOfEra / 1460 + dayOfEra / 36524 - dayOfEra / 146096) / 365
  let dayOfYear := dayOfEra - (365 * yearOfEra + yearOfEra / 4 - yearOfEra / 100)
  let shifted := (5 * dayOfYear + 2) / 153
  let day := dayOfYear - (153 * shifted + 2) / 5 + 1
  let month := if shifted < 10 then shifted + 3 else shifted - 9
  let year := yearOfEra + era * 400 + (if month ≤ 2 then 1 else 0)
  ⟨year.toNat, month.toNat, day.toNat⟩

/-- A number with zeros on the left up to a width. -/
def padded (width n : Nat) : String :=
  let ds := Nat.toDigits 10 n
  String.ofList (List.replicate (width - ds.length) '0' ++ ds)

/-- The text `YYYY-MM-DD`. -/
def isoText (d : Date) : String :=
  padded 4 d.year ++ "-" ++ padded 2 d.month ++ "-" ++ padded 2 d.day

/-- The names of the months. -/
def monthNames : List String :=
  ["January", "February", "March", "April", "May", "June", "July", "August", "September",
   "October", "November", "December"]

/-- The text `Month D, YYYY`. -/
def longText (d : Date) : String :=
  monthNames.getD (d.month - 1) "" ++ " " ++ toString d.day ++ ", " ++ toString d.year

end Date

/-!
## Points in time

A `Timestamp` is a date and a time of day to the microsecond, with the distance from universal time
when it is known. One without is read as universal time.

* `Timestamp.micros` is the instant, in microseconds from the start of 1970.
* `Timestamp.ofInstant` is the timestamp of an instant in universal time.
* `Timestamp.isoText` is the text of a timestamp.
* `Timestamp.parse?` reads a text, which may also count seconds, or milliseconds where seconds
  would lead too far.
-/

/-- A point in time. The offset is in seconds. -/
structure Timestamp where
  date : Date
  hour : Nat
  minute : Nat
  second : Nat
  micro : Nat
  offset : Option Int
deriving DecidableEq, Repr

namespace Timestamp

/-- The seconds since midnight. -/
def secondOfDay (t : Timestamp) : Nat := t.hour * 3600 + t.minute * 60 + t.second

/-- The instant in microseconds from the start of 1970. -/
def micros (t : Timestamp) : Int :=
  (t.date.dayNumber * 86400 + t.secondOfDay - t.offset.getD 0) * 1000000 + t.micro

/-- The timestamp of an instant, in universal time. -/
def ofInstant (micros : Int) : Timestamp :=
  let seconds := micros / 1000000
  let ofDay := (seconds % 86400).toNat
  { date := Date.ofDayNumber (seconds / 86400)
    hour := ofDay / 3600
    minute := ofDay / 60 % 60
    second := ofDay % 60
    micro := (micros % 1000000).toNat
    offset := some 0 }

/-- The same instant in universal time. -/
def utc (t : Timestamp) : Timestamp := ofInstant t.micros

/-- The text of an offset. -/
def offsetText (o : Int) : String :=
  let n := o.natAbs
  (if o < 0 then "-" else "+") ++ Date.padded 2 (n / 3600) ++ ":" ++ Date.padded 2 (n / 60 % 60) ++
    (if n % 60 = 0 then "" else ":" ++ Date.padded 2 (n % 60))

/-- The text of a timestamp; microseconds are left out when there are none. -/
def isoText (t : Timestamp) : String :=
  t.date.isoText ++ "T" ++ Date.padded 2 t.hour ++ ":" ++ Date.padded 2 t.minute ++ ":" ++
    Date.padded 2 t.second ++ (if t.micro = 0 then "" else "." ++ Date.padded 6 t.micro) ++
    ((t.offset.map offsetText).getD "")

/-! ### Reading -/

/-- The value of an ASCII digit. -/
def digit? (c : Char) : Option Nat :=
  if '0' ≤ c ∧ c ≤ '9' then some (c.toNat - 0x30) else none

/-- Reads a number of exactly `n` digits. -/
def digits? : Nat → Nat → List Char → Option (Nat × List Char)
  | 0, acc, cs => some (acc, cs)
  | n + 1, acc, c :: cs => (digit? c).bind fun d => digits? n (10 * acc + d) cs
  | _ + 1, _, [] => none

/-- Reads a date. -/
def date? (cs : List Char) : Option (Date × List Char) := do
  let (y, cs) ← digits? 4 0 cs
  let '-' :: cs := cs | none
  let (m, cs) ← digits? 2 0 cs
  let '-' :: cs := cs | none
  let (d, cs) ← digits? 2 0 cs
  let date : Date := ⟨y, m, d⟩
  if date.isValid then some (date, cs) else none

/-- The microseconds that digits after the decimal mark stand for; those after the sixth are
dropped. -/
def microsOf (ds : List Char) : Nat :=
  ((ds ++ List.replicate 6 '0').take 6).foldl (fun n c => 10 * n + (c.toNat - 0x30)) 0

/-- Reads the fraction of a second, if there is one. -/
def fraction? : List Char → Option (Nat × List Char)
  | c :: cs =>
    if c == '.' || c == ',' then
      let ds := cs.takeWhile Char.isDigit
      if ds.isEmpty then none else some (microsOf ds, cs.dropWhile Char.isDigit)
    else some (0, c :: cs)
  | [] => some (0, [])

/-- Reads the seconds of a time of day, if there are any. -/
def seconds? : List Char → Option (Nat × Nat × List Char)
  | ':' :: cs => do
    let (s, cs) ← digits? 2 0 cs
    if 59 < s then none
    else
      let (us, cs) ← fraction? cs
      some (s, us, cs)
  | cs => some (0, 0, cs)

/-- Reads hours and minutes of an offset, with or without a colon. -/
def offsetBody? (sign : Int) (cs : List Char) : Option Int := do
  let (h, cs) ← digits? 2 0 cs
  let cs := match cs with
    | ':' :: cs => cs
    | cs => cs
  let (m, cs) ← digits? 2 0 cs
  if 59 < m || 23 < h || !cs.isEmpty then none else some (sign * (h * 3600 + m * 60 : Nat))

/-- Reads the rest of a text as an offset, if there is any. -/
def offset? : List Char → Option (Option Int)
  | [] => some none
  | ['Z'] => some (some 0)
  | ['z'] => some (some 0)
  | '+' :: cs => (offsetBody? 1 cs).map some
  | '-' :: cs => (offsetBody? (-1) cs).map some
  | '−' :: cs => (offsetBody? (-1) cs).map some
  | _ => none

/-- Reads a date, and a time of day after it. -/
def dateTime? (cs : List Char) : Option Timestamp := do
  let (date, cs) ← date? cs
  match cs with
  | [] => some ⟨date, 0, 0, 0, 0, none⟩
  | sep :: cs =>
    if sep == 'T' || sep == 't' || sep == ' ' || sep == '_' then
      let (h, cs) ← digits? 2 0 cs
      let ':' :: cs := cs | none
      let (m, cs) ← digits? 2 0 cs
      if 23 < h || 59 < m then none
      else
        let (s, us, cs) ← seconds? cs
        let offset ← offset? cs
        some ⟨date, h, m, s, us, offset⟩
    else none

/-- The largest count that is read as seconds; larger ones are milliseconds. -/
def secondsLimit : Nat := 20000000000

/-- The start of the year 1600, in seconds from the start of 1970. -/
def firstCount : Int := -11676096000

/-- The end of the year 9999, in seconds from the start of 1970. -/
def endOfCounts : Int := 253402300800

/-- The timestamp of a count of seconds, or of milliseconds if it is large, and of microseconds on
top of it. Counts reach from the year 1600 to the year 9999. -/
def ofCount? (count : Int) (extra : Nat) : Option Timestamp :=
  let micros : Int :=
    if count.natAbs ≤ secondsLimit then count * 1000000 + extra else count * 1000 + extra
  if firstCount * 1000000 ≤ micros ∧ micros < endOfCounts * 1000000 then some (ofInstant micros)
  else none

/-- The timestamp of a count of seconds with a fraction, to the nearest microsecond. -/
def ofRat? (q : Rat) : Option Timestamp :=
  let whole := q.floor
  let part := if q < 0 then (q - q.ceil) * -1 else q - whole
  ofCount? whole (part * 1000000 + 1 / 2).floor.toNat

/-- Reads a count of seconds in decimal digits. -/
def count? (cs : List Char) : Option Timestamp :=
  let (sign, body) : Int × List Char := match cs with
    | '-' :: r => (-1, r)
    | '+' :: r => (1, r)
    | r => (1, r)
  let whole := body.takeWhile Char.isDigit
  let rest := body.dropWhile Char.isDigit
  let value (ds : List Char) : Nat := ds.foldl (fun n c => 10 * n + (c.toNat - 0x30)) 0
  match whole, rest with
  | [], _ => none
  | _, [] => ofCount? (sign * value whole) 0
  | _, '.' :: part =>
    if part.all Char.isDigit then
      ofRat? (sign * ((value whole : Rat) + mkRat (value part) (Nat.pow 10 part.length)))
    else none
  | _, _ => none

/-- Reads a text as a point in time. -/
def parse? (s : String) : Option Timestamp :=
  let cs := s.toList
  match dateTime? cs with
  | some t => some t
  | none => count? cs

end Timestamp

end StaticSite
