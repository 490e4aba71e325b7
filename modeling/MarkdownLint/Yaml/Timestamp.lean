import MarkdownLint.Text.Blank
import MarkdownLint.Text.Numeral
import MarkdownLint.Yaml.Error

/-!
Days and moments in YAML: `2001-12-14`, or a day, a time of day, a fraction of a second, and the
distance from universal time.
-/
namespace MarkdownLint.Yaml

/-- A time of day as it is written. -/
structure TimeText where
  hour : List Char
  minute : List Char
  second : List Char
  fraction : List Char
  /-- Sign, hours and minutes of the distance from universal time, if one is written. -/
  zone : Option (Option (Bool × List Char × List Char))

/-- A timestamp as it is written. -/
structure Timestamp where
  year : List Char
  month : List Char
  day : List Char
  time : Option TimeText

/-- Between `least` and `most` digits at the start of a text, and what follows them. -/
def digitsWithin? (least most : Nat) (cs : List Char) : Option (List Char × List Char) :=
  let ds := (cs.take most).takeWhile Char.isDigit
  if ds.length < least then none else some (ds, cs.drop ds.length)

/-- What follows a character at the start of a text. -/
def after? (mark : Char) : List Char → Option (List Char)
  | [] => none
  | c :: cs => if c == mark then some cs else none

/-- The end of a timestamp: nothing, or the distance from universal time. -/
def zone? (cs : List Char) : Option (Option (Option (Bool × List Char × List Char))) :=
  if cs.isEmpty then some none
  else
    match cs.dropWhile Text.isIndent with
    | ['Z'] => some (some none)
    | sign :: rest =>
      if sign != '-' && sign != '+' then none
      else do
        let (hour, rest) ← digitsWithin? 1 2 rest
        if rest.isEmpty then return some (some (sign == '-', hour, []))
        let (minute, rest) ← digitsWithin? 2 2 (← after? ':' rest)
        if rest.isEmpty then return some (some (sign == '-', hour, minute)) else none
    | [] => none

/-- The time of day in a timestamp. -/
def time? (cs : List Char) : Option TimeText := do
  let (hour, cs) ← digitsWithin? 1 2 cs
  let (minute, cs) ← digitsWithin? 2 2 (← after? ':' cs)
  let (second, cs) ← digitsWithin? 2 2 (← after? ':' cs)
  let (fraction, cs) := match cs with
    | '.' :: cs => (cs.takeWhile Char.isDigit, cs.dropWhile Char.isDigit)
    | cs => ([], cs)
  return { hour, minute, second, fraction, zone := ← zone? cs }

/-- A text as a timestamp. -/
def timestamp? (cs : List Char) : Option Timestamp := do
  let (year, cs) ← digitsWithin? 4 4 cs
  let (month, cs) ← digitsWithin? 1 2 (← after? '-' cs)
  let (day, cs) ← digitsWithin? 1 2 (← after? '-' cs)
  match cs with
  | [] => return { year, month, day, time := none }
  | c :: rest =>
    let clock := if c == 'T' || c == 't' then some rest
      else if Text.isIndent c then some (rest.dropWhile Text.isIndent)
      else none
    return { year, month, day, time := some (← time? (← clock)) }

/-- Whether a plain scalar is a timestamp: a day alone has two digits for month and day. -/
def isTimestamp (cs : List Char) : Bool :=
  match timestamp? cs with
  | some t => t.time.isSome || (t.month.length == 2 && t.day.length == 2)
  | none => false

/-! ## Days and moments -/

/-- The day with the given numbers. -/
def dateOf (y m d : Nat) : Except ScalarError Date :=
  if y == 0 then .error (.year y)
  else if m == 0 || 12 < m then .error .month
  else if d == 0 || daysInMonth y m < d then .error .day
  else .ok ⟨y, m, d⟩

/-- The distance from universal time in seconds. -/
def zoneOf : Option (Bool × List Char × List Char) → Except ScalarError Int
  | none => .ok 0
  | some (negative, hour, minute) =>
    let n : Int := 3600 * Text.numeral 10 hour + 60 * Text.numeral 10 minute
    let offset := if negative then -n else n
    if n < 86400 then .ok offset else .error (.zone offset)

/-- Millionths of a second, of which a fraction gives the first digits. -/
def microOf (fraction : List Char) : Nat :=
  let ds := fraction.take 6
  Text.numeral 10 (ds ++ List.replicate (6 - ds.length) '0')

/-- The day or the moment that a timestamp denotes. -/
def Timestamp.value (t : Timestamp) : Except ScalarError Scalar := do
  let number := Text.numeral 10
  match t.time with
  | none => return .date (← dateOf (number t.year) (number t.month) (number t.day))
  | some time =>
    let zone ← match time.zone with
      | none => pure none
      | some z => some <$> zoneOf z
    let date ← dateOf (number t.year) (number t.month) (number t.day)
    if 23 < number time.hour then throw .hour
    if 59 < number time.minute then throw .minute
    if 59 < number time.second then throw .second
    return .moment
      { date, hour := number time.hour, minute := number time.minute,
        second := number time.second, micro := microOf time.fraction, zone }

/-- The day or the moment that a scalar denotes. -/
def timestampValue (cs : List Char) : Except ScalarError Scalar :=
  match timestamp? cs with
  | some t => t.value
  | none => .error .moment

end MarkdownLint.Yaml
