import Backoffice.Calendar.Date

/-!
Times of day and date-times, with leap seconds and fractions of a second.
-/

namespace Backoffice

/-- A time of day. A leap second is the second 60 of its minute. -/
structure TimeOfDay where
  hour : Nat
  minute : Nat
  second : Nat
  nanosecond : Nat
  deriving DecidableEq, Repr

namespace TimeOfDay

/-- Whether a day has the time. Any minute may have a leap second. -/
def isValid (time : TimeOfDay) : Bool :=
  time.hour < 24 && time.minute < 60 && time.second ≤ 60 && time.nanosecond < 1000000000

def toChars (time : TimeOfDay) : List Char :=
  padded 2 time.hour ++ ':' :: padded 2 time.minute ++ ':' :: padded 2 time.second

/-- The fraction of a second after its point: nothing, three, six or nine digits, as few as hold
it. -/
def fractionChars (time : TimeOfDay) : List Char :=
  if time.nanosecond = 0 then []
  else if time.nanosecond % 1000000 = 0 then '.' :: padded 3 (time.nanosecond / 1000000)
  else if time.nanosecond % 1000 = 0 then '.' :: padded 6 (time.nanosecond / 1000)
  else '.' :: padded 9 time.nanosecond

end TimeOfDay

structure DateTime where
  date : Date
  time : TimeOfDay
  deriving DecidableEq, Repr

namespace DateTime

def toChars (moment : DateTime) : List Char :=
  moment.date.toChars ++ 'T' :: moment.time.toChars ++ moment.time.fractionChars

/-- The date-time a number of minutes earlier, for less than a day. The second stays. -/
def minutesEarlier (moment : DateTime) (minutes : Int) : DateTime :=
  let total : Int := moment.time.hour * 60 + moment.time.minute - minutes
  let (date, total) :=
    if total < 0 then (moment.date.previous, total + 1440)
    else if 1440 ≤ total then (moment.date.next, total - 1440)
    else (moment.date, total)
  { date
    time :=
      { moment.time with hour := (total / 60).toNat, minute := (total % 60).toNat } }

end DateTime

end Backoffice
