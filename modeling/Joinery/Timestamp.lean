import Joinery.Text.Blank

/-!
# Points in time

A point in time is a calendar date and a time of day in UTC, to the nanosecond.
It is written as `2026-03-01T10:00:00Z`, with a fraction of three, six or nine
digits if there is one, and read from any offset to UTC. Reading is lenient
about blanks between the parts and about leading zeros.
-/

namespace Joinery

/-- A day of the Gregorian calendar. -/
structure Date where
  year : Int
  month : Nat
  day : Nat
deriving DecidableEq

namespace Date

/-- Whether a year has a 29th of February. -/
def isLeap (year : Int) : Bool := year % 4 = 0 && (year % 100 ≠ 0 || year % 400 = 0)

/-- The number of days of a month. -/
def daysIn (year : Int) (month : Nat) : Nat :=
  if month = 2 then (if isLeap year then 29 else 28)
  else if month = 4 ∨ month = 6 ∨ month = 9 ∨ month = 11 then 30
  else 31

/-- The years that are counted. -/
def inRange (year : Int) : Bool := -262143 ≤ year && year ≤ 262142

/-- Whether a date exists. -/
def isValid (date : Date) : Bool :=
  inRange date.year && 1 ≤ date.month && date.month ≤ 12 && 1 ≤ date.day &&
    date.day ≤ daysIn date.year date.month

/-- The day after. -/
def next (date : Date) : Date :=
  if date.day < daysIn date.year date.month then { date with day := date.day + 1 }
  else if date.month < 12 then ⟨date.year, date.month + 1, 1⟩
  else ⟨date.year + 1, 1, 1⟩

/-- The day before. -/
def prev (date : Date) : Date :=
  if 1 < date.day then { date with day := date.day - 1 }
  else if 1 < date.month then
    ⟨date.year, date.month - 1, daysIn date.year (date.month - 1)⟩
  else ⟨date.year - 1, 12, 31⟩

end Date

/-- A point in time in UTC. The second may be 60, for a leap second. -/
structure Timestamp where
  date : Date
  /-- Minutes since midnight. -/
  minute : Nat
  second : Nat
  nanosecond : Nat
deriving DecidableEq

namespace Timestamp

/-- A number with zeros in front up to a width. -/
def padded (width n : Nat) : List Char :=
  let ds := Nat.toDigits 10 n
  List.replicate (width - ds.length) '0' ++ ds

/-- A year of four digits; beyond these, with a sign. -/
def yearChars (year : Int) : List Char :=
  if 0 ≤ year ∧ year ≤ 9999 then padded 4 year.toNat
  else (if year < 0 then '-' else '+') :: padded 4 year.natAbs

/-- The fraction of a second: nothing, or the fewest of three, six or nine
digits. -/
def fractionChars (nanosecond : Nat) : List Char :=
  if nanosecond = 0 then []
  else if nanosecond % 1000000 = 0 then '.' :: padded 3 (nanosecond / 1000000)
  else if nanosecond % 1000 = 0 then '.' :: padded 6 (nanosecond / 1000)
  else '.' :: padded 9 nanosecond

/-- The written form in UTC. -/
def chars (t : Timestamp) : List Char :=
  yearChars t.date.year ++ '-' :: (padded 2 t.date.month ++ '-' :: (padded 2 t.date.day ++
    'T' :: (padded 2 (t.minute / 60) ++ ':' :: (padded 2 (t.minute % 60) ++
      ':' :: (padded 2 t.second ++ fractionChars t.nanosecond ++ ['Z'])))))

/-- The text of a point in time. -/
def text (t : Timestamp) : String := String.ofList t.chars

/-- The text after the blanks at its front. -/
def skipBlanks (cs : List Char) : List Char := cs.dropWhile Text.isBlank

/-- Reads up to `width` digits, at least one. -/
def readNumber (width : Nat) (cs : List Char) : Option (Nat × List Char) :=
  match (cs.take width).takeWhile Char.isDigit with
  | [] => none
  | ds => some (Nat.ofDigitChars 10 ds 0, cs.drop ds.length)

/-- Reads a number of two digits after blanks, at most `greatest`. -/
def readField (greatest : Nat) (cs : List Char) : Option (Nat × List Char) :=
  (readNumber 2 (skipBlanks cs)).bind fun r => if r.1 ≤ greatest then some r else none

/-- Reads a year: four digits, or any number of them after a sign. -/
def readYear (cs : List Char) : Option (Int × List Char) :=
  match skipBlanks cs with
  | '-' :: rest => (readNumber rest.length rest).map fun r => (-(r.1 : Int), r.2)
  | '+' :: rest => (readNumber rest.length rest).map fun r => ((r.1 : Int), r.2)
  | rest => (readNumber 4 rest).map fun r => ((r.1 : Int), r.2)

/-- Reads a mark after blanks. -/
def readMark (mark : Char) (cs : List Char) : Option (List Char) :=
  match skipBlanks cs with
  | c :: rest => if c = mark then some rest else none
  | [] => none

/-- Reads the fraction of a second; digits after the ninth do not count. -/
def readFraction : List Char → Option (Nat × List Char)
  | '.' :: rest =>
    match rest.takeWhile Char.isDigit with
    | [] => none
    | ds =>
      some (Nat.ofDigitChars 10 ((ds ++ List.replicate 9 '0').take 9) 0,
        rest.drop ds.length)
  | cs => some (0, cs)

/-- Reads two digits. -/
def readTwoDigits : List Char → Option (Nat × List Char)
  | a :: b :: rest =>
    if a.isDigit && b.isDigit then some (Nat.ofDigitChars 10 [a, b] 0, rest) else none
  | _ => none

/-- Reads hours and minutes of an offset. -/
def readOffsetSize (cs : List Char) : Option (Nat × List Char) :=
  (readTwoDigits cs).bind fun hours =>
    (readTwoDigits (hours.2.dropWhile fun c => c = ':' || Text.isBlank c)).bind fun minutes =>
      if hours.1 < 24 ∧ minutes.1 < 60 then some (60 * hours.1 + minutes.1, minutes.2)
      else none

/-- Reads an offset to UTC in minutes: `Z`, `UTC`, or a sign and a size. -/
def readOffset (cs : List Char) : Option (Int × List Char) :=
  if (cs.take 3).map Char.toUpper = ['U', 'T', 'C'] then some (0, cs.drop 3)
  else
    match cs with
    | [] => none
    | c :: rest =>
      if c = 'Z' ∨ c = 'z' then some (0, rest)
      else if c = '+' then (readOffsetSize rest).map fun r => ((r.1 : Int), r.2)
      else if c = '-' ∨ c = '−' then (readOffsetSize rest).map fun r => (-(r.1 : Int), r.2)
      else none

/-- Reads a date. -/
def readDate (cs : List Char) : Option (Date × List Char) := do
  let (year, cs) ← readYear cs
  let cs ← readMark '-' cs
  let (month, cs) ← readField 12 cs
  let cs ← readMark '-' cs
  let (day, cs) ← readField 31 cs
  let date : Date := ⟨year, month, day⟩
  if date.isValid then some (date, cs) else none

/-- Reads minutes since midnight, seconds and nanoseconds. -/
def readTime (cs : List Char) : Option ((Nat × Nat × Nat) × List Char) := do
  let (hour, cs) ← readField 23 cs
  let cs ← readMark ':' cs
  let (minute, cs) ← readField 59 cs
  let cs ← readMark ':' cs
  let (second, cs) ← readField 60 cs
  let (nanosecond, cs) ← readFraction cs
  return ((60 * hour + minute, second, nanosecond), cs)

/-- The point in time at which clocks with an offset show a date and time. -/
def ofLocal (date : Date) (minute second nanosecond : Nat) (offset : Int) : Option Timestamp :=
  let utc : Int := minute - offset
  let (date, utc) :=
    if utc < 0 then (date.prev, utc + 1440)
    else if 1440 ≤ utc then (date.next, utc - 1440)
    else (date, utc)
  if Date.inRange date.year then some ⟨date, utc.toNat, second, nanosecond⟩ else none

/-- Whether a character may part the date from the time. -/
def isSeparator (c : Char) : Bool := c = 'T' || c = 't' || c = ' '

/-- Reads a point in time. -/
def read (cs : List Char) : Option Timestamp := do
  let (date, cs) ← readDate cs
  match cs with
  | [] => none
  | c :: cs =>
    if !isSeparator c then none
    else
      let ((minute, second, nanosecond), cs) ← readTime cs
      let (offset, cs) ← readOffset (skipBlanks cs)
      if skipBlanks cs = [] then ofLocal date minute second nanosecond offset else none

/-- The point in time that a text stands for. -/
def ofString? (text : String) : Option Timestamp := read text.toList

end Timestamp

end Joinery
