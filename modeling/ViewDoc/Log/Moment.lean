import ViewDoc.Text.Digit
import ViewDoc.Value.Basic
/-!
Moments in universal time, to the microsecond, with their date in the Gregorian calendar.
-/

set_option autoImplicit false

namespace ViewDoc

/-- A moment: microseconds since the start of 1970. -/
structure Moment where
  micros : Int
  deriving DecidableEq, Repr, Inhabited

/-- Why a number is the time of no moment. -/
inductive TimeFault where
  | noNumber
  /-- The seconds go beyond 64 bits. -/
  | beyondClock
  /-- The year goes beyond 32 bits. -/
  | beyondCalendar
  /-- The year is not written with four digits. -/
  | undated
  deriving DecidableEq, Repr

/-- A day of the calendar. -/
structure Date where
  year : Int
  month : Int
  day : Int
  deriving DecidableEq, Repr

namespace Date

/-- The number of days from the start of the year 0, counted from March, to the start of 1970. -/
def epochDays : Int := 719468

/-- The number of days in four centuries. -/
def cycleDays : Int := 146097

/-- The date of a day that is counted from the start of 1970. Years are counted from March, so that
a leap day ends its year. -/
def ofDays (days : Int) : Date :=
  let shifted := days + epochDays
  let cycle := Int.fdiv shifted cycleDays
  let dayOfCycle := shifted - cycle * cycleDays
  let yearOfCycle :=
    (dayOfCycle - dayOfCycle / 1460 + dayOfCycle / 36524 - dayOfCycle / 146096) / 365
  let dayOfYear := dayOfCycle - (365 * yearOfCycle + yearOfCycle / 4 - yearOfCycle / 100)
  let position := (5 * dayOfYear + 2) / 153
  let month := if position < 10 then position + 3 else position - 9
  { year := yearOfCycle + cycle * 400 + (if month ≤ 2 then 1 else 0), month,
    day := dayOfYear - (153 * position + 2) / 5 + 1 }

end Date

namespace Moment

private def padded (width : Nat) (n : Int) : String :=
  let digits := Nat.toDigits 10 n.toNat
  .ofList (List.replicate (width - digits.length) '0' ++ digits)

/-- The moment so many seconds after the start of 1970. -/
def ofSeconds (seconds : Int) : Moment :=
  ⟨seconds * 1000000⟩

/-- The microseconds of a fraction of a second: the product is rounded to a number first, and then to
the nearest integer, from a tie to the even one. -/
private def microsOf (num den : Nat) : Nat :=
  match Binary64.ofRatio false (num * 1000000) den with
  | .finite _ m e => Binary64.roundDiv (m * twoTo e.toNat) (twoTo (-e).toNat)
  | _ => 0

/-- The moment so many seconds after the start of 1970, if the number is finite. -/
def ofNumber? : Binary64 -> Option Moment
  | .finite negative m e =>
    let num := m * twoTo e.toNat
    let den := twoTo (-e).toNat
    let n : Int := (num / den * 1000000 + microsOf (num % den) den : Nat)
    some ⟨if negative then -n else n⟩
  | _ => none

/-- The seconds of a moment, without their fraction. -/
def seconds (t : Moment) : Int :=
  Int.fdiv t.micros 1000000

/-- The date of a moment. -/
def date (t : Moment) : Date :=
  Date.ofDays (Int.fdiv t.seconds 86400)

/-- The moment, if its year is written with four digits. -/
def dated (t : Moment) : Except TimeFault Moment :=
  let year := t.date.year
  if t.seconds < -9223372036854775808 || 9223372036854775807 < t.seconds then .error .beyondClock
  else if year < -2147481748 || 2147485547 < year then .error .beyondCalendar
  else if year < 1 || 9999 < year then .error .undated
  else .ok t

/-- The moment of a time in seconds; no time at all is the start of 1970. -/
def ofTime : Value -> Except TimeFault Moment
  | .int i => (ofSeconds i).dated
  | .bool b => .ok (ofSeconds (if b then 1 else 0))
  | .float .nan => .error .noNumber
  | .float x =>
    match ofNumber? x with
    | some t => t.dated
    | none => .error .beyondClock
  | _ => .ok (ofSeconds 0)

/-- The moment, if it can be told by a clock on the wall, which looks back for a day. -/
def clocked (t : Moment) : Except TimeFault Moment :=
  (ofSeconds (t.seconds - 86400)).dated.map fun _ => t

/-- The time of day of a moment. -/
def timeText (t : Moment) : String :=
  let s := Int.fmod t.seconds 86400
  padded 2 (s / 3600) ++ ":" ++ padded 2 (s / 60 % 60) ++ ":" ++ padded 2 (s % 60)

/-- The text of a moment with its date, its time of day, a fraction of a second unless that is
zero, and its offset from universal time. -/
def text (t : Moment) : String :=
  let d := t.date
  let fraction := Int.fmod t.micros 1000000
  padded 4 d.year ++ "-" ++ padded 2 d.month ++ "-" ++ padded 2 d.day ++ "T" ++ t.timeText ++
    (if fraction = 0 then "" else "." ++ padded 6 fraction) ++ "+00:00"

end Moment

end ViewDoc
