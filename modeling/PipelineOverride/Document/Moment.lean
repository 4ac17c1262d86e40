import PipelineOverride.Decimal.Shortest

/-!
# Dates and times

The calendar dates and clock times that a document may hold. They are kept by their parts, and
their texts follow the ISO order of year, month, day, hour, minute and second.
-/

set_option autoImplicit false

namespace PipelineOverride

/-- The time of day of a moment. The offset from universal time is in minutes where it is given. -/
structure ClockTime where
  hour : Nat
  minute : Nat
  second : Nat
  microsecond : Nat
  offset : Option Int
  deriving DecidableEq, Repr

/-- A calendar date, with a time of day or without. -/
structure Moment where
  year : Nat
  month : Nat
  day : Nat
  time : Option ClockTime
  deriving DecidableEq, Repr

namespace Moment

/-- A number by at least `width` decimal digits. -/
def padded (width n : Nat) : String :=
  let digits := Decimal.natText n
  String.ofList (List.replicate (width - digits.length) '0') ++ digits

def monthLength (year month : Nat) : Nat :=
  if month = 2 then
    if (year % 4 = 0 && year % 100 != 0) || year % 400 = 0 then 29 else 28
  else if month = 4 || month = 6 || month = 9 || month = 11 then 30
  else 31

/-- Whether the parts name a day and a time that exist. Offsets stay below one day. -/
def isPossible (moment : Moment) : Bool :=
  1 ≤ moment.year && 1 ≤ moment.month && moment.month ≤ 12 && 1 ≤ moment.day
    && moment.day ≤ monthLength moment.year moment.month
    && moment.time.all fun time =>
      time.hour < 24 && time.minute < 60 && time.second < 60
        && time.offset.all fun offset => -1440 < offset && offset < 1440

/-- The offset as sign, hours and minutes. -/
def offsetText (offset : Int) : String :=
  (if offset < 0 then "-" else "+") ++ padded 2 (offset.natAbs / 60) ++ ":"
    ++ padded 2 (offset.natAbs % 60)

/-- The ISO text of a moment, the date and the time joined by `joint`. -/
def text (joint : String) (moment : Moment) : String :=
  let date := padded 4 moment.year ++ "-" ++ padded 2 moment.month ++ "-" ++ padded 2 moment.day
  match moment.time with
  | none => date
  | some time =>
    date ++ joint ++ padded 2 time.hour ++ ":" ++ padded 2 time.minute ++ ":"
      ++ padded 2 time.second
      ++ (if time.microsecond = 0 then "" else "." ++ padded 6 time.microsecond)
      ++ (match time.offset with
          | none => ""
          | some offset => offsetText offset)

/-- The expression that builds a moment from its parts. -/
def expression (moment : Moment) : String :=
  let number := fun n => Decimal.natText n
  let date := number moment.year ++ ", " ++ number moment.month ++ ", " ++ number moment.day
  match moment.time with
  | none => "datetime.date(" ++ date ++ ")"
  | some time =>
    let tail :=
      if time.microsecond != 0 then
        ", " ++ number time.second ++ ", " ++ number time.microsecond
      else if time.second != 0 then ", " ++ number time.second
      else ""
    let zone :=
      match time.offset with
      | none => ""
      | some 0 => ", tzinfo=datetime.timezone.utc"
      | some offset =>
        let seconds := number ((offset % 1440).toNat * 60)
        let delta :=
          if offset < 0 then "days=-1, seconds=" ++ seconds else "seconds=" ++ seconds
        ", tzinfo=datetime.timezone(datetime.timedelta(" ++ delta ++ "))"
    "datetime.datetime(" ++ date ++ ", " ++ number time.hour ++ ", " ++ number time.minute ++ tail
      ++ zone ++ ")"

end Moment

end PipelineOverride
