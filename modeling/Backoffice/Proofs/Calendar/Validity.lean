import Backoffice.Proofs.Calendar.Numbers

/-!
Dates and times that are read are dates of the calendar and times of a day. A shift to universal
time keeps them so: it leads from years of four digits to the days next to them at most.
-/

namespace Backoffice

open Text

/-! ### The calendar -/

namespace Date

variable {year : Int} {month : Nat} {date : Date}

theorem daysInMonth_le : daysInMonth year month ≤ 31 := by
  unfold daysInMonth
  cases isLeapYear year <;> split <;> decide

theorem daysInMonth_pos_iff : 0 < daysInMonth year month ↔ 1 ≤ month ∧ month ≤ 12 := by
  unfold daysInMonth
  cases isLeapYear year <;> split <;> grind

theorem isValid_iff : date.isValid = true ↔
    (firstYear ≤ date.year ∧ date.year ≤ lastYear) ∧ 1 ≤ date.day ∧
    date.day ≤ daysInMonth date.year date.month := by
  simp only [isValid, Bool.and_eq_true, decide_eq_true_eq, and_assoc]

theorem month_of_isValid (valid : date.isValid = true) : 1 ≤ date.month ∧ date.month ≤ 12 := by
  have day := (isValid_iff.1 valid).2
  exact daysInMonth_pos_iff.1 (Nat.lt_of_lt_of_le day.1 day.2)

theorem day_le_of_isValid (valid : date.isValid = true) : date.day ≤ 31 :=
  (isValid_iff.1 valid).2.2.trans daysInMonth_le

theorem isValid_next (valid : date.isValid = true) (notLast : date.year < lastYear) :
    date.next.isValid = true := by
  have month := month_of_isValid valid
  obtain ⟨year, day⟩ := isValid_iff.1 valid
  unfold next
  split
  · next notLastDay => exact isValid_iff.2 ⟨year, Nat.le_add_left 1 _, notLastDay⟩
  · split
    · have days : 0 < daysInMonth date.year (date.month + 1) := daysInMonth_pos_iff.2 (by omega)
      exact isValid_iff.2 ⟨year, Nat.le_refl 1, days⟩
    · have days : 0 < daysInMonth (date.year + 1) 1 := daysInMonth_pos_iff.2 (by omega)
      exact isValid_iff.2 ⟨⟨Int.le_add_one year.1, notLast⟩, Nat.le_refl 1, days⟩

theorem isValid_previous (valid : date.isValid = true) (notFirst : firstYear < date.year) :
    date.previous.isValid = true := by
  have month := month_of_isValid valid
  obtain ⟨year, day⟩ := isValid_iff.1 valid
  unfold previous
  split
  · next notFirstDay =>
      exact isValid_iff.2 ⟨year, Nat.le_sub_one_of_lt notFirstDay, (Nat.sub_le _ 1).trans day.2⟩
  · split
    · have days : 0 < daysInMonth date.year (date.month - 1) := daysInMonth_pos_iff.2 (by omega)
      exact isValid_iff.2 ⟨year, days, Nat.le_refl _⟩
    · exact isValid_iff.2
        ⟨⟨Int.le_sub_one_of_lt notFirst, (Int.sub_le_self _ (by decide)).trans year.2⟩,
        (by decide : 1 ≤ 31), Nat.le_refl 31⟩

end Date

namespace TimeOfDay

variable {time : TimeOfDay}

theorem isValid_iff : time.isValid = true ↔
    time.hour < 24 ∧ time.minute < 60 ∧ time.second ≤ 60 ∧ time.nanosecond < 1000000000 := by
  simp only [isValid, Bool.and_eq_true, decide_eq_true_eq, and_assoc]

end TimeOfDay

namespace DateTime

variable {moment : DateTime}

structure IsValid (moment : DateTime) : Prop where
  date : moment.date.isValid = true
  time : moment.time.isValid = true

theorem minutesEarlier_zero (valid : moment.IsValid) : moment.minutesEarlier 0 = moment := by
  obtain ⟨hour, minute, -⟩ := TimeOfDay.isValid_iff.1 valid.time
  have notBefore : ¬ ((moment.time.hour : Int) * 60 + moment.time.minute - 0 < 0) := by omega
  have notAfter : ¬ (1440 ≤ (moment.time.hour : Int) * 60 + moment.time.minute - 0) := by omega
  have sameHour : (((moment.time.hour : Int) * 60 + moment.time.minute - 0) / 60).toNat =
      moment.time.hour := by omega
  have sameMinute : (((moment.time.hour : Int) * 60 + moment.time.minute - 0) % 60).toNat =
      moment.time.minute := by
    omega
  simp only [minutesEarlier, if_neg notBefore, if_neg notAfter, sameHour, sameMinute]

/-- Within the years of four digits, less than a day earlier or later there is a date-time. -/
theorem isValid_minutesEarlier (valid : moment.IsValid)
    (fourDigits : 0 ≤ moment.date.year ∧ moment.date.year ≤ 9999) {minutes : Int}
    (lessThanDay : -1440 < minutes ∧ minutes < 1440) : (moment.minutesEarlier minutes).IsValid := by
  obtain ⟨hour, minute, second, nanosecond⟩ := TimeOfDay.isValid_iff.1 valid.time
  have notFirst : Date.firstYear < moment.date.year := Int.lt_of_lt_of_le (by decide) fourDigits.1
  have notLast : moment.date.year < Date.lastYear := Int.lt_of_le_of_lt fourDigits.2 (by decide)
  have onDay {date : Date} (isDate : date.isValid = true) {total : Int}
      (inDay : 0 ≤ total ∧ total < 1440) :
        IsValid ⟨date,
          { moment.time with hour := (total / 60).toNat, minute := (total % 60).toNat }⟩ :=
    ⟨isDate,
      TimeOfDay.isValid_iff.2 ⟨by dsimp only; omega, by dsimp only; omega, second, nanosecond⟩⟩
  by_cases before : (moment.time.hour : Int) * 60 + moment.time.minute - minutes < 0
  · simp only [minutesEarlier, if_pos before]
    exact onDay (Date.isValid_previous valid.date notFirst) (by omega)
  · by_cases after : 1440 ≤ (moment.time.hour : Int) * 60 + moment.time.minute - minutes
    · simp only [minutesEarlier, if_neg before, if_pos after]
      exact onDay (Date.isValid_next valid.date notLast) (by omega)
    · simp only [minutesEarlier, if_neg before, if_neg after]
      exact onDay valid.date (by omega)

end DateTime

namespace Calendar

variable {chars rest : List Char} {date : Date} {time : TimeOfDay} {moment : DateTime}

/-! ### What is read is valid -/

theorem isValid_of_datePart?_eq_some (reads : datePart? chars = some (date, rest)) :
    date.isValid = true := by
  simp only [datePart?, Option.bind_eq_bind, Option.bind_eq_some_iff] at reads
  obtain ⟨⟨year, _⟩, -, _, -, ⟨month, _⟩, -, _, -, ⟨day, _⟩, -, reads⟩ := reads
  obtain ⟨valid, same⟩ := Option.ite_none_right_eq_some.1 reads
  cases same
  exact valid

theorem isValid_of_minutePart?_eq_some (reads : minutePart? chars = some (time, rest)) :
    time.isValid = true := by
  simp only [minutePart?, Option.bind_eq_bind, Option.bind_eq_some_iff] at reads
  obtain ⟨⟨hour, _⟩, -, _, -, ⟨minute, _⟩, -, reads⟩ := reads
  obtain ⟨valid, same⟩ := Option.ite_none_right_eq_some.1 reads
  cases same
  exact valid

theorem isValid_of_secondPart?_eq_some (reads : secondPart? chars = some (time, rest)) :
    time.isValid = true := by
  simp only [secondPart?, Option.bind_eq_bind, Option.bind_eq_some_iff] at reads
  obtain ⟨⟨time, _⟩, -, _, -, ⟨second, _⟩, -, reads⟩ := reads
  obtain ⟨valid, same⟩ := Option.ite_none_right_eq_some.1 reads
  cases same
  exact valid

theorem lt_of_fractionPart?_eq_some {nanosecond : Nat}
    (reads : fractionPart? chars = some (nanosecond, rest)) :
    nanosecond < 1000000000 := by
  unfold fractionPart? at reads
  split at reads
  · next fraction =>
    rcases taken : takeDigits 9 fraction with ⟨_ | ⟨digit, digits⟩, after⟩
    · rw [taken] at reads
      cases reads
    · rw [taken] at reads
      cases reads
      have isDigits : digit :: digits = (spanDigits (fraction.take 9)).1 :=
        (congrArg Prod.fst taken).symm
      have few : (digit :: digits).length ≤ 9 := by
        have lengths := length_spanDigits (fraction.take 9)
        rw [← isDigits, List.length_take] at lengths
        omega
      have below : spell 10 (digit :: digits) < 10 ^ (digit :: digits).length :=
        spell_lt (isDigits ▸ lt_ten_of_mem_spanDigits _)
      calc spell 10 (digit :: digits) * 10 ^ (9 - (digit :: digits).length)
        _ < 10 ^ (digit :: digits).length * 10 ^ (9 - (digit :: digits).length) :=
          Nat.mul_lt_mul_of_pos_right below (Nat.pow_pos (by decide))
        _ = 1000000000 := by rw [← Nat.pow_add, Nat.add_sub_cancel' few]
  · cases reads
    decide

theorem lessThanDay_of_offset?_eq_some {offset : Int}
    (reads : offset? chars = some (offset, rest)) :
    -1440 < offset ∧ offset < 1440 := by
  have lessThanDay {hours minutes : Nat} (inDay : hours < 24 ∧ minutes < 60) :
      (hours : Int) * 60 + minutes < 1440 := by omega
  unfold offset? at reads
  split at reads
  · cases reads
    decide
  · cases reads
    decide
  · next sign after _ _ =>
    simp only [Option.bind_eq_bind, Option.bind_some] at reads
    split at reads
    · simp only [Option.bind_eq_some_iff] at reads
      obtain ⟨⟨hours, _⟩, -, _, -, ⟨minutes, _⟩, -, reads⟩ := reads
      obtain ⟨inDay, same⟩ := Option.ite_none_right_eq_some.1 reads
      have := lessThanDay inDay
      cases same
      simp only [Bool.false_eq_true, if_false]
      omega
    · split at reads
      · simp only [Option.bind_eq_some_iff] at reads
        obtain ⟨⟨hours, _⟩, -, _, -, ⟨minutes, _⟩, -, reads⟩ := reads
        obtain ⟨inDay, same⟩ := Option.ite_none_right_eq_some.1 reads
        have := lessThanDay inDay
        cases same
        simp only [if_true]
        omega
      · cases reads
  · cases reads

theorem whole?_eq_some_iff {Value : Type} {reading : Option (Value × List Char)} {value : Value} :
    whole? reading = some value ↔ reading = some (value, []) := by
  unfold whole?
  split <;> simp_all

theorem isValid_of_date?_eq_some (reads : date? chars = some date) : date.isValid = true :=
  isValid_of_datePart?_eq_some (whole?_eq_some_iff.1 reads)

theorem isValid_of_time?_eq_some (reads : time? chars = some time) : time.isValid = true := by
  rcases Option.or_eq_some_iff.1 reads with withSeconds | ⟨-, withMinutes⟩
  · exact isValid_of_secondPart?_eq_some (whole?_eq_some_iff.1 withSeconds)
  · exact isValid_of_minutePart?_eq_some (whole?_eq_some_iff.1 withMinutes)

theorem isValid_of_dateTime?_eq_some (reads : dateTime? chars = some moment) : moment.IsValid := by
  rcases Option.or_eq_some_iff.1 reads with withSeconds | ⟨-, withMinutes⟩
  · have reads := whole?_eq_some_iff.1 withSeconds
    simp only [Option.bind_eq_bind, Option.bind_eq_some_iff] at reads
    obtain ⟨⟨date, _⟩, readsDate, _, -, ⟨time, _⟩, readsTime, ⟨nanosecond, _⟩, readsFraction,
        same⟩ := reads
    obtain ⟨hour, minute, second, -⟩ :=
      TimeOfDay.isValid_iff.1 (isValid_of_secondPart?_eq_some readsTime)
    cases same
    exact ⟨isValid_of_datePart?_eq_some readsDate,
      TimeOfDay.isValid_iff.2 ⟨hour, minute, second, lt_of_fractionPart?_eq_some readsFraction⟩⟩
  · have reads := whole?_eq_some_iff.1 withMinutes
    simp only [Option.bind_eq_bind, Option.bind_eq_some_iff] at reads
    obtain ⟨⟨date, _⟩, readsDate, _, -, ⟨time, _⟩, readsTime, same⟩ := reads
    cases same
    exact ⟨isValid_of_datePart?_eq_some readsDate, isValid_of_minutePart?_eq_some readsTime⟩

/-! ### Moments in parts -/

def fixedDate? (chars : List Char) : Option (Date × List Char) := do
  let (year, chars) ← fixed? 4 chars
  let (month, chars) ← fixed? 2 (← expect? '-' chars)
  let (day, chars) ← fixed? 2 (← expect? '-' chars)
  some ({ year, month, day }, chars)

def fixedTime? (chars : List Char) : Option (TimeOfDay × List Char) := do
  let (hour, chars) ← fixed? 2 chars
  let (minute, chars) ← fixed? 2 (← expect? ':' chars)
  let (second, chars) ← fixed? 2 (← expect? ':' chars)
  let (nanosecond, chars) ← fractionPart? chars
  some ({ hour, minute, second, nanosecond }, chars)

def afterMark? : List Char → Option (List Char)
  | 'T' :: rest | 't' :: rest | ' ' :: rest => some rest
  | _ => none

theorem moment?_eq (chars : List Char) : moment? chars = whole? (do
    let (date, chars) ← fixedDate? chars
    let (time, chars) ← fixedTime? (← afterMark? chars)
    let (offset, chars) ← offset? chars
    if date.isValid && time.isValid then some ((DateTime.mk date time).minutesEarlier offset, chars)
    else none) := by
  -- All that comes before the mark is read alike; after it the readings differ
  -- in how they are grouped.
  unfold moment? fixedDate?
  rcases fixed? 4 chars with _ | ⟨year, chars⟩
  · rfl
  dsimp only [Option.bind_eq_bind, Option.bind_some]
  rcases expect? '-' chars with _ | chars
  · rfl
  dsimp only [Option.bind_some]
  rcases fixed? 2 chars with _ | ⟨month, chars⟩
  · rfl
  dsimp only [Option.bind_some]
  rcases expect? '-' chars with _ | chars
  · rfl
  dsimp only [Option.bind_some]
  rcases fixed? 2 chars with _ | ⟨day, chars⟩
  · rfl
  dsimp only [Option.bind_some]
  split
  · simp only [afterMark?, fixedTime?, Option.bind_eq_bind, Option.bind_assoc, Option.bind_some]
  · simp only [afterMark?, fixedTime?, Option.bind_eq_bind, Option.bind_assoc, Option.bind_some]
  · simp only [afterMark?, fixedTime?, Option.bind_eq_bind, Option.bind_assoc, Option.bind_some]
  · have unmarked : afterMark? chars = none := by
      unfold afterMark?
      split <;> simp_all
    rw [unmarked]
    rfl

theorem year_of_fixedDate?_eq_some (reads : fixedDate? chars = some (date, rest)) :
    0 ≤ date.year ∧ date.year ≤ 9999 := by
  simp only [fixedDate?, Option.bind_eq_bind, Option.bind_eq_some_iff] at reads
  obtain ⟨⟨year, _⟩, readsYear, _, -, ⟨month, _⟩, -, _, -, ⟨day, _⟩, -, same⟩ := reads
  have below := lt_of_fixed?_eq_some readsYear
  cases same
  exact ⟨Int.natCast_nonneg _, Int.ofNat_le.2 (Nat.le_of_lt_succ below)⟩

theorem isValid_of_moment?_eq_some (reads : moment? chars = some moment) : moment.IsValid := by
  rw [moment?_eq, whole?_eq_some_iff] at reads
  simp only [Option.bind_eq_bind, Option.bind_eq_some_iff] at reads
  obtain ⟨⟨date, _⟩, readsDate, _, -, ⟨time, _⟩, readsTime, ⟨offset, _⟩, readsOffset, reads⟩ :=
    reads
  obtain ⟨valid, same⟩ := Option.ite_none_right_eq_some.1 reads
  rw [Bool.and_eq_true] at valid
  cases same
  exact DateTime.isValid_minutesEarlier ⟨valid.1, valid.2⟩ (year_of_fixedDate?_eq_some readsDate)
    (lessThanDay_of_offset?_eq_some readsOffset)

end Calendar

end Backoffice
