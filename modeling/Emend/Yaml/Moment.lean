import Emend.Calendar
import Emend.Text.Digits
import Emend.Yaml.Cursor

/-!
# Dates and times

Days of the calendar, and moments of a day with an optional distance from universal time.
-/

namespace Emend.Yaml

open Calendar

/-- A moment of a day. The offset from universal time is in minutes. -/
structure Moment where
  day : Day
  hour : Nat
  minute : Nat
  second : Nat
  microsecond : Nat := 0
  offset : Option Int := none
  deriving DecidableEq, BEq, Repr, Inhabited

/-- A day of the calendar, or why there is no such day. -/
def makeDay (year month day : Nat) : Except Fault Day :=
  if year == 0 then .error (.badValue "year 0 is out of range")
  else if month < 1 || 12 < month then .error (.badValue "month must be in 1..12")
  else if day < 1 || Day.monthLength year month < day then
    .error (.badValue "day is out of range for month")
  else .ok ⟨year, month, day⟩

/-- A day inside a list or a mapping. -/
def dayLiteral (d : Day) : String := s!"datetime.date({d.year}, {d.month}, {d.day})"

/-- A stretch of minutes, as days and the seconds that are left of them. -/
def durationText (minutes : Int) : String :=
  let days := minutes.fdiv 1440
  let seconds := minutes.fmod 1440 * 60
  let parts := (if days = 0 then [] else [s!"days={days}"])
    ++ (if seconds = 0 then [] else [s!"seconds={seconds}"])
  if parts.isEmpty then "datetime.timedelta(0)"
  else "datetime.timedelta(" ++ ", ".intercalate parts ++ ")"

namespace Moment

/-- A distance from universal time, which is less than a day. -/
def checkOffset (minutes : Int) : Except Fault Int :=
  if 1440 ≤ minutes.natAbs then
    let found := durationText minutes
    .error (.badValue
      ("offset must be a timedelta strictly between -timedelta(hours=24) and timedelta(hours=24), not "
        ++ found ++ "."))
  else .ok minutes

/-- A moment of a day, or why there is no such moment. -/
def make (year month day hour minute second microsecond : Nat) (offset : Option Int) :
    Except Fault Moment := do
  let d ← makeDay year month day
  if 23 < hour then throw (.badValue "hour must be in 0..23")
  if 59 < minute then throw (.badValue "minute must be in 0..59")
  if 59 < second then throw (.badValue "second must be in 0..59")
  return ⟨d, hour, minute, second, microsecond, offset⟩

/-- The moment as text. -/
def text (m : Moment) : String :=
  let fraction := if m.microsecond = 0 then "" else "." ++ padded 6 m.microsecond
  let zone := match m.offset with
    | none => ""
    | some o =>
      (if o < 0 then "-" else "+") ++ s!"{padded 2 (o.natAbs / 60)}:{padded 2 (o.natAbs % 60)}"
  m.day.text ++ s!" {padded 2 m.hour}:{padded 2 m.minute}:{padded 2 m.second}" ++ fraction ++ zone

/-- The moment inside a list or a mapping. -/
def literal (m : Moment) : String :=
  let parts := [m.day.year, m.day.month, m.day.day, m.hour, m.minute]
    ++ (if m.second = 0 && m.microsecond = 0 then [] else [m.second])
    ++ (if m.microsecond = 0 then [] else [m.microsecond])
  let zone := match m.offset with
    | none => ""
    | some o =>
      if o = 0 then ", tzinfo=datetime.timezone.utc"
      else ", tzinfo=datetime.timezone(" ++ durationText o ++ ")"
  "datetime.datetime(" ++ ", ".intercalate (parts.map toString) ++ zone ++ ")"

end Moment

/-! ## Reading -/

/-- A day, or a moment. -/
inductive Timestamp where
  | day (d : Day)
  | moment (m : Moment)
  deriving DecidableEq, BEq, Repr, Inhabited

namespace Timestamp

/-- Between `least` and `most` decimal digits, as many as there are. -/
def digits? (least most : Nat) (cs : List Char) : Option (Nat × List Char) :=
  let run := (cs.takeWhile (·.isDigit)).take most
  if run.length < least then none
  else some (Text.ofDigits 10 (run.map fun c => c.toNat - 48), cs.drop run.length)

/-- A character that has to come next. -/
def expect? (c : Char) (cs : List Char) : Option (List Char) :=
  match cs with
  | d :: rest => if d == c then some rest else none
  | [] => none

/-- The millionths of a second that the digits behind a point write. -/
def fraction (cs : List Char) : Nat × List Char :=
  match cs with
  | '.' :: rest =>
    let run := rest.takeWhile (·.isDigit)
    let six := run.take 6 ++ List.replicate (6 - run.length) '0'
    (Text.ofDigits 10 (six.map fun c => c.toNat - 48), rest.drop run.length)
  | _ => (0, cs)

/-- The distance from universal time that ends a text; none at all where the text is empty. -/
def zone? (cs : List Char) : Option (Option Int) :=
  let signed (sign : Int) (rest : List Char) : Option (Option Int) := do
    let (hours, rest) ← digits? 1 2 rest
    match rest with
    | [] => return some (sign * (hours * 60 : Nat))
    | rest =>
      let (minutes, rest) ← digits? 2 2 (← expect? ':' rest)
      if rest.isEmpty then return some (sign * (hours * 60 + minutes : Nat)) else none
  match cs.dropWhile isSpace with
  | ['Z'] => some (some 0)
  | '+' :: rest => signed 1 rest
  | '-' :: rest => signed (-1) rest
  | _ => if cs.isEmpty then some none else none

/-- The numbers of a timestamp: year, month and day, and the time if there is one. -/
structure Parts where
  year : Nat
  month : Nat
  day : Nat
  time : Option (Nat × Nat × Nat × Nat × Option Int)

/-- What stands between a day and a time. -/
def gap? (cs : List Char) : Option (List Char) :=
  match cs with
  | 'T' :: rest | 't' :: rest => some rest
  | c :: rest => if isSpace c then some (rest.dropWhile isSpace) else none
  | [] => none

/-- Take a timestamp apart. -/
def parts? (cs : List Char) : Option Parts := do
  let (year, cs) ← digits? 4 4 cs
  let (month, cs) ← digits? 1 2 (← expect? '-' cs)
  let (date, cs) ← digits? 1 2 (← expect? '-' cs)
  if cs.isEmpty then return ⟨year, month, date, none⟩
  let (hour, cs) ← digits? 1 2 (← gap? cs)
  let (minute, cs) ← digits? 2 2 (← expect? ':' cs)
  let (second, cs) ← digits? 2 2 (← expect? ':' cs)
  let (micro, cs) := fraction cs
  let offset ← zone? cs
  return ⟨year, month, date, some (hour, minute, second, micro, offset)⟩

/-- Read a timestamp. -/
def read (cs : List Char) : Except Fault Timestamp :=
  match parts? cs with
  | none => .error .noDate
  | some p =>
    match p.time with
    | none => (makeDay p.year p.month p.day).map .day
    | some (hour, minute, second, micro, offset) => do
      let offset ← offset.mapM Moment.checkOffset
      return .moment (← Moment.make p.year p.month p.day hour minute second micro offset)

end Timestamp

end Emend.Yaml
