import EditorBlocks.Data.Value
/-!
The written forms of days and times: years have four digits, other fields two, and the distance from
universal time is given in hours and minutes.
-/

namespace EditorBlocks

/-- A number with at least so many digits. -/
def padded (width n : Nat) : String :=
  let digits := toString n
  String.ofList (List.replicate (width - digits.length) '0') ++ digits

namespace Day

def isLeap (year : Nat) : Bool := year % 4 = 0 && (year % 100 != 0 || year % 400 = 0)

def daysInMonth (year : Nat) : (month : Nat) → Nat
  | 2 => if isLeap year then 29 else 28
  | 4 | 6 | 9 | 11 => 30
  | _ => 31

/-- Whether there is such a day, in the years 1 to 9999. -/
def isValid (d : Day) : Bool :=
  1 ≤ d.year && d.year ≤ 9999 && 1 ≤ d.month && d.month ≤ 12 && 1 ≤ d.day
    && d.day ≤ daysInMonth d.year d.month

/-- The day so many days after the first of January 1970, in the years 1 to 9999. Years are counted
from March on, so that a leap day comes last, and in spans of 400 years. -/
def ofNumber? (n : Int) : Option Day :=
  let fromMarch := n + 719468
  let span := fromMarch / 146097
  let inSpan := (fromMarch % 146097).toNat
  let year := (inSpan - inSpan / 1460 + inSpan / 36524 - inSpan / 146096) / 365
  let inYear := inSpan - (365 * year + year / 4 - year / 100)
  let month := (5 * inYear + 2) / 153
  let day := inYear - (153 * month + 2) / 5 + 1
  let fullYear := span * 400 + year + (if month < 10 then 0 else 1)
  let found : Day := ⟨fullYear.toNat, if month < 10 then month + 3 else month - 9, day⟩
  if 0 < fullYear && found.isValid then some found else none

def text (d : Day) : String := padded 4 d.year ++ "-" ++ padded 2 d.month ++ "-" ++ padded 2 d.day

end Day

namespace Moment

def isValid (m : Moment) : Bool :=
  m.day.isValid && m.hour < 24 && m.minute < 60 && m.second < 60

/-- The moment so many millionths of a second after the start of 1970, in universal time. -/
def ofMicroseconds? (n : Int) : Option Moment :=
  let seconds := n / 1000000
  let ofDay := (seconds % 86400).toNat
  (Day.ofNumber? (seconds / 86400)).map fun day =>
    ⟨day, ofDay / 3600, ofDay / 60 % 60, ofDay % 60, (n % 1000000).toNat, some 0⟩

/-- The time of day in whole seconds. -/
def clockSeconds (m : Moment) : String :=
  padded 2 m.hour ++ ":" ++ padded 2 m.minute ++ ":" ++ padded 2 m.second

/-- The time of day, with a fraction of six digits unless it is a whole second. -/
def clockText (m : Moment) : String :=
  m.clockSeconds ++ (if m.microsecond = 0 then "" else "." ++ padded 6 m.microsecond)

/-- A distance from universal time, in seconds. -/
def offsetText (offset : Int) : String :=
  let minutes := offset.natAbs / 60
  (if offset < 0 then "-" else "+") ++ padded 2 (minutes / 60) ++ ":" ++ padded 2 (minutes % 60)

/-- Day and time with a T between them. -/
def text (m : Moment) : String :=
  m.day.text ++ "T" ++ m.clockText ++ (m.offset.map offsetText).getD ""

/-- The same with Z for universal time. -/
def shortText (m : Moment) : String :=
  if m.offset = some 0 then m.day.text ++ "T" ++ m.clockText ++ "Z" else m.text

end Moment
end EditorBlocks
