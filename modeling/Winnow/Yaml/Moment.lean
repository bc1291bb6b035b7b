import Winnow.Number.Text

/-!
# Dates and times in YAML

A plain scalar may be a date, or a date with a time and a zone. No setting takes one, but a moment
has to exist, and it may be the key of a mapping, where it is compared with others and shown.

* `MomentParts.ofText?` — the parts of a text that has the form of a moment.
* `Moment` — a moment that exists; `MomentParts.moment` finds it.
* `Moment.same` — whether two moments are one: dates, times of one clock, or times in zones.
* `Moment.shown` — a moment in its common form.
-/

namespace Winnow.Yaml

/-- The part of a moment that no calendar or clock has. -/
inductive MomentError where
  | year
  | month
  | day
  | hour
  | minute
  | second
  /-- A zone is a day or more away from the common time, by so many minutes. -/
  | zone (minutes : Int)
  deriving DecidableEq, Inhabited

/-- A length of time in minutes as days and seconds, of which the seconds are not negative. -/
def shownSpan (minutes : Int) : Text :=
  let part (name : Text) (n : Int) : List Text :=
    if n = 0 then [] else [name ++ "=" ++ toString n]
  let parts := part "days" (minutes.fdiv 1440) ++ part "seconds" (minutes.fmod 1440 * 60)
  "datetime.timedelta(" ++ Text.intercalate ", " parts ++ ")"

/-- What is said of a moment that does not exist. -/
def MomentError.message : MomentError → Text
  | year => "year 0 is out of range"
  | month => "month must be in 1..12"
  | day => "day is out of range for month"
  | hour => "hour must be in 0..23"
  | minute => "minute must be in 0..59"
  | second => "second must be in 0..59"
  | zone minutes =>
      "offset must be a timedelta strictly between -timedelta(hours=24) and " ++
        "timedelta(hours=24), not " ++ shownSpan minutes ++ "."

/-- The distance of a zone from the common time. -/
structure Zone where
  negative : Bool
  hours : Nat
  minutes : Nat

/-- A time of day. -/
structure TimeOfDay where
  hour : Nat
  minute : Nat
  second : Nat
  /-- The digits of the fraction of a second. -/
  fraction : List CodePoint
  zone : Option Zone

/-- The parts of a moment. -/
structure MomentParts where
  year : Nat
  month : Nat
  day : Nat
  time : Option TimeOfDay

namespace MomentParts

/-- From `least` to `most` digits at the head of a text. -/
def digits? (least most : Nat) (s : List CodePoint) : Option (Nat × List CodePoint) :=
  let taken := (s.takeWhile CodePoint.isDigit).take most
  if taken.length < least then none else some (digitsValue taken, s.drop taken.length)

/-- What follows a mark. -/
def skipMark? (mark : CodePoint) : List CodePoint → Option (List CodePoint)
  | c :: rest => if c = mark then some rest else none
  | [] => none

/-- A zone that fills a text. -/
def zone? : List CodePoint → Option (Option Zone)
  | [] => some none
  | ['Z'] => some (some ⟨false, 0, 0⟩)
  | c :: rest =>
      if c = '+' || c = '-' then
        match digits? 1 2 rest with
        | none => none
        | some (hours, []) => some (some ⟨c = '-', hours, 0⟩)
        | some (hours, rest) => do
            let (minutes, rest) ← digits? 2 2 (← skipMark? ':' rest)
            if rest.isEmpty then some (some ⟨c = '-', hours, minutes⟩) else none
      else none

/-- Whether a character is a blank. -/
def isBlankMark (c : CodePoint) : Bool := c = ' ' || c = '\t'

/-- A time that fills a text. -/
def time? (s : List CodePoint) : Option TimeOfDay := do
  let (hour, s) ← digits? 1 2 s
  let (minute, s) ← digits? 2 2 (← skipMark? ':' s)
  let (second, s) ← digits? 2 2 (← skipMark? ':' s)
  let (fraction, s) := match s with
    | '.' :: rest => (rest.takeWhile CodePoint.isDigit, rest.dropWhile CodePoint.isDigit)
    | _ => ([], s)
  let zone ← zone? (s.dropWhile isBlankMark)
  if zone.isNone && !s.isEmpty then none
  return ⟨hour, minute, second, fraction, zone⟩

/-- The parts of a text that has the form of a moment. A date alone has two digits for the month
and for the day. -/
def ofText? (s : List CodePoint) : Option MomentParts := do
  let (year, s) ← digits? 4 4 s
  let s₁ ← skipMark? '-' s
  let (month, s₂) ← digits? 1 2 s₁
  let s₃ ← skipMark? '-' s₂
  let (day, s₄) ← digits? 1 2 s₃
  match s₄ with
  | [] =>
      if s₁.length - s₂.length = 2 && s₃.length = 2 then return ⟨year, month, day, none⟩ else none
  | c :: rest =>
      if c = 'T' || c = 't' then return ⟨year, month, day, some (← time? rest)⟩
      else if isBlankMark c then
        return ⟨year, month, day, some (← time? (rest.dropWhile isBlankMark))⟩
      else none

end MomentParts

/-! ## Moments -/

/-- A time of day that exists. -/
structure Clock where
  hour : Nat
  minute : Nat
  second : Nat
  millionth : Nat
  /-- How many minutes the zone is ahead of the common time, if a zone is given. -/
  zone : Option Int
  deriving DecidableEq, Inhabited

/-- A date that exists, perhaps with a time of day. -/
structure Moment where
  year : Nat
  month : Nat
  day : Nat
  clock : Option Clock
  deriving DecidableEq, Inhabited

/-- The number of days of a month. -/
def daysIn (year month : Nat) : Nat :=
  if month = 2 then
    if year % 4 = 0 && (year % 100 ≠ 0 || year % 400 = 0) then 29 else 28
  else if month = 4 || month = 6 || month = 9 || month = 11 then 30
  else 31

/-- How many minutes a zone is ahead of the common time. -/
def Zone.minutesAhead (z : Zone) : Int :=
  let total : Int := z.hours * 60 + z.minutes
  if z.negative then -total else total

/-- The fraction of a second in millionths; further digits do not count. -/
def TimeOfDay.millionths (t : TimeOfDay) : Nat :=
  let digits := t.fraction.take 6
  digitsValue (digits ++ Text.zeros (6 - digits.length))

/-- The zone of a time, which is less than a day away from the common time. -/
def TimeOfDay.checkZone (t : TimeOfDay) : Except MomentError (Option Int) :=
  match t.zone with
  | none => .ok none
  | some z =>
      if z.minutesAhead.natAbs < 1440 then .ok (some z.minutesAhead)
      else .error (.zone z.minutesAhead)

/-- Checks that a date exists. -/
def MomentParts.checkDate (m : MomentParts) : Except MomentError Unit :=
  if m.year = 0 then .error .year
  else if m.month = 0 || 12 < m.month then .error .month
  else if m.day = 0 || daysIn m.year m.month < m.day then .error .day
  else .ok ()

/-- Checks that a time of day exists. -/
def TimeOfDay.check (t : TimeOfDay) : Except MomentError Unit :=
  if 23 < t.hour then .error .hour
  else if 59 < t.minute then .error .minute
  else if 59 < t.second then .error .second
  else .ok ()

/-- The moment of which these are the parts; the zone is checked before the date. -/
def MomentParts.moment (m : MomentParts) : Except MomentError Moment :=
  match m.time with
  | none => do
      m.checkDate
      return ⟨m.year, m.month, m.day, none⟩
  | some t => do
      let zone ← t.checkZone
      m.checkDate
      t.check
      return ⟨m.year, m.month, m.day, some ⟨t.hour, t.minute, t.second, t.millionths, zone⟩⟩

namespace Moment

/-! ## Comparing -/

/-- The number of days up to the end of a year. -/
def daysThrough (year : Nat) : Nat := year * 365 + year / 4 - year / 100 + year / 400

/-- The number of days up to a date. -/
def dayNumber (m : Moment) : Nat :=
  let months := (List.range m.month).drop 1
  daysThrough (m.year - 1) + months.foldl (fun days month => days + daysIn m.year month) 0 + m.day

/-- The instant of a moment whose zone is `zone` minutes ahead, in millionths of a second. -/
def instant (m : Moment) (c : Clock) (zone : Int) : Int :=
  let minutes : Int := ((m.dayNumber * 24 + c.hour) * 60 + c.minute : Nat)
  ((minutes - zone) * 60 + c.second) * 1000000 + c.millionth

/-- Whether two moments are one. Times in zones are compared as instants; otherwise all parts have
to be equal. -/
def same (m n : Moment) : Bool :=
  match m.clock, n.clock with
  | some c, some d =>
      match c.zone, d.zone with
      | some y, some z => m.instant c y == n.instant d z
      | _, _ => m == n
  | _, _ => m == n

/-! ## Showing -/

open Text (padded)

/-- A zone as it is shown. -/
def shownZone (minutes : Int) : Text :=
  let sign := if minutes < 0 then "-" else "+"
  sign ++ padded 2 (minutes.natAbs / 60) ++ ":" ++ padded 2 (minutes.natAbs % 60)

/-- A time as it is shown. -/
def shownClock (c : Clock) : Text :=
  let fraction : Text := if c.millionth = 0 then "" else "." ++ padded 6 c.millionth
  padded 2 c.hour ++ ":" ++ padded 2 c.minute ++ ":" ++ padded 2 c.second ++ fraction ++
    ((c.zone.map shownZone).getD "")

/-- A moment as it is shown. -/
def shown (m : Moment) : Text :=
  let date := padded 4 m.year ++ "-" ++ padded 2 m.month ++ "-" ++ padded 2 m.day
  match m.clock with
  | none => date
  | some c => date ++ " " ++ shownClock c

end Moment

end Winnow.Yaml
