import CommandShell.Text.Blank

/-!
# Calendar

Moments of the Gregorian calendar in universal time, from a count of seconds since the start of 1970. Days are
counted from 1 March of the year 0, so that the leap day is the last of its year.
-/

namespace CommandShell

/-- Seconds since the start of 1970, and the microseconds after them. -/
structure Instant where
  seconds : Int
  micros : Nat
deriving DecidableEq, Repr

/-- A moment as clocks and calendars show it. -/
structure Moment where
  year : Int
  month : Nat
  day : Nat
  hour : Nat
  minute : Nat
  second : Nat
  micros : Nat
  /-- Counted from Sunday. -/
  weekday : Nat
deriving DecidableEq, Repr

namespace Moment

/-- The moment of an instant. -/
def ofInstant (t : Instant) : Moment :=
  let days := t.seconds.fdiv 86400
  let rest := (t.seconds.fmod 86400).toNat
  let fromMarch := days + 719468
  let era := fromMarch.fdiv 146097
  let dayOfEra := (fromMarch.fmod 146097).toNat
  let yearOfEra := (dayOfEra - dayOfEra / 1460 + dayOfEra / 36524 - dayOfEra / 146096) / 365
  let dayOfYear := dayOfEra - (365 * yearOfEra + yearOfEra / 4 - yearOfEra / 100)
  let fifth := (5 * dayOfYear + 2) / 153
  let month := if fifth < 10 then fifth + 3 else fifth - 9
  { year := era * 400 + yearOfEra + (if month ≤ 2 then 1 else 0)
    month
    day := dayOfYear - (153 * fifth + 2) / 5 + 1
    hour := rest / 3600
    minute := rest / 60 % 60
    second := rest % 60
    micros := t.micros
    weekday := ((days + 4).fmod 7).toNat }

/-- A number in decimal digits, with zeros in front up to a width. -/
def padded (width n : Nat) : String :=
  let digits := toString n
  String.ofList (List.replicate (width - digits.length) '0') ++ digits

/-- The short names of the days, from Sunday on. -/
def weekdayNames : List String := ["Sun", "Mon", "Tue", "Wed", "Thu", "Fri", "Sat"]

/-- The short names of the months. -/
def monthNames : List String :=
  ["Jan", "Feb", "Mar", "Apr", "May", "Jun", "Jul", "Aug", "Sep", "Oct", "Nov", "Dec"]

/-- The time of day. -/
def clock (m : Moment) : String := padded 2 m.hour ++ ":" ++ padded 2 m.minute ++ ":" ++ padded 2 m.second

/-- The day, the date, the time and the time zone in words. -/
def longText (m : Moment) : String :=
  Text.spaced [(weekdayNames[m.weekday]?).getD "", (monthNames[m.month - 1]?).getD "", padded 2 m.day,
    toString m.year, m.clock, "UTC"]

/-- The date and time in the international format; microseconds are shown if there are any. -/
def isoText (m : Moment) : String :=
  padded 4 m.year.toNat ++ "-" ++ padded 2 m.month ++ "-" ++ padded 2 m.day ++ "T" ++ m.clock ++
    (if m.micros = 0 then "" else "." ++ padded 6 m.micros) ++ "+00:00"

end Moment

end CommandShell
