/-!
# The calendar

Days of the Gregorian calendar, their number counted from the first day of 1970, and the time as it is
logged.
-/

namespace Emend.Calendar

/-- A number with zeros in front up to `width` digits. -/
def padded (width n : Nat) : String :=
  let digits := Nat.toDigits 10 n
  String.ofList (List.replicate (width - digits.length) '0' ++ digits)

/-- A day. -/
structure Day where
  year : Nat
  month : Nat
  day : Nat
  deriving DecidableEq, BEq, Repr, Inhabited

namespace Day

/-- The year has a 29th of February. -/
def isLeap (year : Nat) : Bool := year % 4 == 0 && (year % 100 != 0 || year % 400 == 0)

/-- How many days a month has. -/
def monthLength (year month : Nat) : Nat :=
  if month == 2 then (if isLeap year then 29 else 28)
  else if [4, 6, 9, 11].contains month then 30 else 31

/-- The day as text. -/
def text (d : Day) : String := s!"{padded 4 d.year}-{padded 2 d.month}-{padded 2 d.day}"

/-- The day of a number, counted from the first day of 1970. The years are taken to begin in March, so
that a leap day ends its year. -/
def ofCount (n : Nat) : Day :=
  let days := n + 719468
  let era := days / 146097
  let inEra := days % 146097
  let year := (inEra - inEra / 1460 + inEra / 36524 - inEra / 146096) / 365
  let inYear := inEra - (365 * year + year / 4 - year / 100)
  let month := (5 * inYear + 2) / 153
  let day := inYear - (153 * month + 2) / 5 + 1
  if month < 10 then ⟨era * 400 + year, month + 3, day⟩
  else ⟨era * 400 + year + 1, month - 9, day⟩

example : ofCount 0 = ⟨1970, 1, 1⟩ := by decide

example : ofCount 11016 = ⟨2000, 2, 29⟩ := by decide

example : ofCount 20512 = ⟨2026, 2, 28⟩ ∧ ofCount 20513 = ⟨2026, 3, 1⟩ := by decide

end Day

/-- The universal time, in microseconds from the start of 1970, as it is logged. A whole second is
written without a fraction. -/
def stamp (microseconds : Nat) : String :=
  let seconds := microseconds / 1000000
  let fraction := microseconds % 1000000
  let inDay := seconds % 86400
  let clock := s!"{padded 2 (inDay / 3600)}:{padded 2 (inDay / 60 % 60)}:{padded 2 (inDay % 60)}"
  (Day.ofCount (seconds / 86400)).text ++ "T" ++ clock
    ++ (if fraction = 0 then "" else "." ++ padded 6 fraction) ++ "+00:00"

end Emend.Calendar
