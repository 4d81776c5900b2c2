import Backoffice.Calendar.Time
import Backoffice.Text.Blank
import Backoffice.Text.Ascii

/-!
Reading dates and times.

Free forms allow blanks before each number and numbers of fewer digits. The strict form of a moment
with its distance from universal time has fixed widths throughout.
-/

namespace Backoffice.Calendar

/-- At most so many decimal digits at the start of a text, and the rest. -/
def takeDigits (limit : Nat) (chars : List Char) : List Nat × List Char :=
  let (digits, _) := Text.spanDigits (chars.take limit)
  (digits, chars.drop digits.length)

def number? (limit : Nat) (chars : List Char) : Option (Nat × List Char) :=
  match takeDigits limit chars with
  | ([], _) => none
  | (digits, rest) => some (Text.spell 10 digits, rest)

def fixed? (width : Nat) (chars : List Char) : Option (Nat × List Char) :=
  let (digits, rest) := takeDigits width chars
  if digits.length = width then some (Text.spell 10 digits, rest) else none

def expect? (c : Char) : List Char → Option (List Char)
  | first :: rest => if first = c then some rest else none
  | [] => none

/-- A year after blanks: at most four digits, or any number of them after a sign. -/
def year? (chars : List Char) : Option (Int × List Char) :=
  match Text.dropBlanks chars with
  | '-' :: rest => (number? rest.length rest).map fun (value, after) => (-(value : Int), after)
  | '+' :: rest => (number? rest.length rest).map fun (value, after) => ((value : Int), after)
  | rest => (number? 4 rest).map fun (value, after) => ((value : Int), after)

def short? (chars : List Char) : Option (Nat × List Char) :=
  number? 2 (Text.dropBlanks chars)

def datePart? (chars : List Char) : Option (Date × List Char) := do
  let (year, chars) ← year? chars
  let (month, chars) ← short? (← expect? '-' chars)
  let (day, chars) ← short? (← expect? '-' chars)
  let date : Date := { year, month, day }
  if date.isValid then some (date, chars) else none

def minutePart? (chars : List Char) : Option (TimeOfDay × List Char) := do
  let (hour, chars) ← short? chars
  let (minute, chars) ← short? (← expect? ':' chars)
  let time : TimeOfDay := { hour, minute, second := 0, nanosecond := 0 }
  if time.isValid then some (time, chars) else none

def secondPart? (chars : List Char) : Option (TimeOfDay × List Char) := do
  let (time, chars) ← minutePart? chars
  let (second, chars) ← short? (← expect? ':' chars)
  let time : TimeOfDay := { time with second }
  if time.isValid then some (time, chars) else none

/-- The fraction of a second, if a point announces one: nine digits count, further ones are passed
over. -/
def fractionPart? (chars : List Char) : Option (Nat × List Char) :=
  match chars with
  | '.' :: rest =>
    match takeDigits 9 rest with
    | ([], _) => none
    | (digits, after) =>
      some (Text.spell 10 digits * Nat.pow 10 (9 - digits.length), (Text.spanDigits after).2)
  | chars => some (0, chars)

def whole? {Value : Type} : Option (Value × List Char) → Option Value
  | some (value, []) => some value
  | _ => none

def date? (chars : List Char) : Option Date :=
  whole? (datePart? chars)

def time? (chars : List Char) : Option TimeOfDay :=
  (whole? (secondPart? chars)).or (whole? (minutePart? chars))

/-- A date-time: with seconds and a fraction, or with hours and minutes alone. -/
def dateTime? (chars : List Char) : Option DateTime :=
  let withSeconds := do
    let (date, chars) ← datePart? chars
    let (time, chars) ← secondPart? (← expect? 'T' chars)
    let (nanosecond, chars) ← fractionPart? chars
    some ({ date, time := { time with nanosecond } : DateTime }, chars)
  let withMinutes := do
    let (date, chars) ← datePart? chars
    let (time, chars) ← minutePart? (← expect? 'T' chars)
    some ({ date, time : DateTime }, chars)
  (whole? withSeconds).or (whole? withMinutes)

/-- The distance from universal time in minutes: a `Z`, or a sign, two digits of hours, a colon and
two digits of minutes. -/
def offset? (chars : List Char) : Option (Int × List Char) := do
  match chars with
  | 'Z' :: rest | 'z' :: rest => some (0, rest)
  | sign :: rest =>
    let negative ←
      if sign = '+' then some false else if sign = '-' ∨ sign = '−' then some true else none
    let (hours, rest) ← fixed? 2 rest
    let (minutes, rest) ← fixed? 2 (← expect? ':' rest)
    if hours < 24 ∧ minutes < 60 then
      let total : Int := hours * 60 + minutes
      some (if negative then -total else total, rest)
    else none
  | [] => none

def moment? (chars : List Char) : Option DateTime :=
  whole? do
    let (year, chars) ← fixed? 4 chars
    let (month, chars) ← fixed? 2 (← expect? '-' chars)
    let (day, chars) ← fixed? 2 (← expect? '-' chars)
    let chars ← match chars with
      | 'T' :: rest | 't' :: rest | ' ' :: rest => some rest
      | _ => none
    let (hour, chars) ← fixed? 2 chars
    let (minute, chars) ← fixed? 2 (← expect? ':' chars)
    let (second, chars) ← fixed? 2 (← expect? ':' chars)
    let (nanosecond, chars) ← fractionPart? chars
    let (offset, chars) ← offset? chars
    let date : Date := { year, month, day }
    let time : TimeOfDay := { hour, minute, second, nanosecond }
    if date.isValid && time.isValid then
      some ((DateTime.mk date time).minutesEarlier offset, chars)
    else none

def momentChars (moment : DateTime) : List Char :=
  moment.toChars ++ "+00:00".toList

end Backoffice.Calendar
