import Joinery.Timestamp

/-!
# Dates and times in TOML

A value may be a date, a time of day, or both with or without an offset to UTC.
No configuration holds one. Where a date is given nevertheless, it is known as
such: an object with the single field `date`, which no structure has.
-/

namespace Joinery.Toml

/-- Passes over a mark. -/
def passMark (mark : Char) : List Char → Option (List Char)
  | c :: rest => if c = mark then some rest else none
  | [] => none

/-- Reads a number of two digits in a range. -/
def readPair (least greatest : Nat) (cs : List Char) : Option (Nat × List Char) :=
  (Timestamp.readTwoDigits cs).bind fun r =>
    if least ≤ r.1 ∧ r.1 ≤ greatest then some r else none

/-- Passes over a number of two digits in a range. -/
def passPair (least greatest : Nat) (cs : List Char) : Option (List Char) :=
  (readPair least greatest cs).map Prod.snd

/-- Passes over a day such as `2026-03-01`. -/
def passDay (cs : List Char) : Option (List Char) := do
  let (century, cs) ← readPair 0 99 cs
  let (year, cs) ← readPair 0 99 cs
  let cs ← passMark '-' cs
  let (month, cs) ← readPair 1 12 cs
  let cs ← passMark '-' cs
  passPair 1 (Date.daysIn (100 * century + year) month) cs

/-- Passes over the fraction of a second, if there is one. -/
def passFraction : List Char → List Char
  | '.' :: c :: rest => if c.isDigit then rest.dropWhile Char.isDigit else '.' :: c :: rest
  | cs => cs

/-- Passes over a time of day such as `10:00:00.5`. -/
def passTime (cs : List Char) : Option (List Char) := do
  let cs ← passPair 0 23 cs
  let cs ← passMark ':' cs
  let cs ← passPair 0 59 cs
  let cs ← passMark ':' cs
  let cs ← passPair 0 60 cs
  return passFraction cs

/-- Passes over an offset to UTC: `Z`, or a sign, hours and minutes. -/
def passOffset : List Char → Option (List Char)
  | [] => none
  | c :: rest =>
    if c = 'Z' ∨ c = 'z' then some rest
    else if c = '+' ∨ c = '-' then do
      let rest ← passPair 0 23 rest
      let rest ← passMark ':' rest
      passPair 0 59 rest
    else none

/-- Passes over a time of day and an offset behind a day, if they follow. -/
def passClock (cs : List Char) : List Char :=
  match cs with
  | [] => []
  | c :: rest =>
    if Timestamp.isSeparator c then
      match passTime rest with
      | some more => (passOffset more).getD more
      | none => cs
    else cs

/-- Passes over a date or a time of day. -/
def passDate (cs : List Char) : Option (List Char) :=
  match passDay cs with
  | some rest => some (passClock rest)
  | none => passTime cs

end Joinery.Toml
