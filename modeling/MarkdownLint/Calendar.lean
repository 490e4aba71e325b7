import MarkdownLint.Text.Quoted

/-!
Days of the calendar and moments of time.
-/
namespace MarkdownLint

open Text (padded)

/-- A day of the calendar. -/
structure Date where
  year : Nat
  month : Nat
  day : Nat
deriving Repr, DecidableEq

/-- A moment: a day, a time of day, and the distance from universal time in seconds if known. -/
structure Moment where
  date : Date
  hour : Nat
  minute : Nat
  second : Nat
  micro : Nat
  zone : Option Int
deriving Repr, DecidableEq

/-! ## Counting days -/

/-- Whether a year has a day more. -/
def isLeapYear (y : Nat) : Bool := y % 4 == 0 && (y % 100 != 0 || y % 400 == 0)

/-- The number of days of a month. -/
def daysInMonth (y m : Nat) : Nat :=
  if m == 2 then if isLeapYear y then 29 else 28
  else if m == 4 || m == 6 || m == 9 || m == 11 then 30
  else 31

/-- The number of a day, counted from the first day of the first year. -/
def Date.number (d : Date) : Nat :=
  let years := d.year - 1
  let months := (List.range (d.month - 1)).foldl (fun n m => n + daysInMonth d.year (m + 1)) 0
  365 * years + years / 4 - years / 100 + years / 400 + months + d.day

/-- The millionths of a second that have passed up to a moment, in universal time if the distance
from it is known. -/
def Moment.instant (m : Moment) : Int :=
  let seconds : Int := 86400 * m.date.number + 3600 * m.hour + 60 * m.minute + m.second
  1000000 * (seconds - m.zone.getD 0) + m.micro

/-! ## Text -/

/-- A day as `2001-12-14`. -/
def Date.text (d : Date) : String :=
  padded 4 d.year ++ "-" ++ padded 2 d.month ++ "-" ++ padded 2 d.day

/-- The distance from universal time as `+05:30`. -/
def zoneText (offset : Int) : String :=
  let n := offset.natAbs
  let seconds := if n % 60 == 0 then "" else ":" ++ padded 2 (n % 60)
  (if offset < 0 then "-" else "+") ++ padded 2 (n / 3600) ++ ":" ++ padded 2 (n / 60 % 60) ++
    seconds

/-- A moment as `2001-12-14 21:59:43.100000-05:00`. -/
def Moment.text (m : Moment) : String :=
  m.date.text ++ " " ++ padded 2 m.hour ++ ":" ++ padded 2 m.minute ++ ":" ++ padded 2 m.second ++
    (if m.micro == 0 then "" else "." ++ padded 6 m.micro) ++ (m.zone.map zoneText).getD ""

/-- The constructor call that denotes a day. -/
def Date.quoted (d : Date) : String :=
  "datetime.date(" ++ toString d.year ++ ", " ++ toString d.month ++ ", " ++ toString d.day ++ ")"

/-- The constructor call that denotes a duration, given in seconds. Days are counted down, seconds
up. -/
def durationQuoted (duration : Int) : String :=
  let days := Int.fdiv duration 86400
  let seconds := Int.fmod duration 86400
  let parts := (if days == 0 then [] else ["days=" ++ toString days]) ++
    (if seconds == 0 then [] else ["seconds=" ++ toString seconds])
  "datetime.timedelta(" ++ ", ".intercalate parts ++ ")"

/-- The constructor call that denotes a time zone. -/
def zoneQuoted (offset : Int) : String :=
  if offset == 0 then "datetime.timezone.utc"
  else "datetime.timezone(" ++ durationQuoted offset ++ ")"

/-- The constructor call that denotes a moment; seconds and their fractions are left out when
zero. -/
def Moment.quoted (m : Moment) : String :=
  let fields := [m.date.year, m.date.month, m.date.day, m.hour, m.minute] ++
    (if m.micro != 0 then [m.second, m.micro] else if m.second != 0 then [m.second] else [])
  let zone := match m.zone with
    | none => []
    | some offset => ["tzinfo=" ++ zoneQuoted offset]
  "datetime.datetime(" ++ ", ".intercalate (fields.map toString ++ zone) ++ ")"

end MarkdownLint
