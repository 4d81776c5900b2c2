import Backoffice.Proofs.Calendar.Validity

/-!
Dates and times that are written and read again.

Every date, time of day and date-time reads as itself. A moment in universal time does so in
the years of four digits, which are all that its reader knows; outside of them, where a
shift to universal time may lead from the first or the last of these years, what is written
is not read as a moment at all.
-/

namespace Backoffice

open Text

theorem Text.stopsDigits_cons {c : Char} {rest : List Char} (notDigit : digit? c = none) :
    StopsDigits (c :: rest) := by
  rintro _ ⟨⟩
  exact notDigit

theorem Text.stopsDigits_nil : StopsDigits [] := nofun

namespace Calendar

variable {rest : List Char} {date : Date} {time : TimeOfDay} {moment : DateTime}

/-! ### Dates -/

theorem year?_yearChars (year : Int) :
    year? (Date.yearChars year ++ '-' :: rest) = some (year, '-' :: rest) := by
  have stops : StopsDigits ('-' :: rest) := stopsDigits_cons rfl
  unfold Date.yearChars
  split
  · next fourDigits =>
    have fits : (padded 4 year.toNat).length = 4 := length_padded (by omega) (by decide)
    rw [year?, dropBlanks_padded]
    split
    · next minus => exact absurd minus (padded_append_ne_cons rfl)
    · next plus => exact absurd plus (padded_append_ne_cons rfl)
    · simp only [number?_padded fits.le (.inr stops), Option.map_some,
        Int.toNat_of_nonneg fourDigits.1]
  · have within : (padded 4 year.natAbs).length ≤ (padded 4 year.natAbs ++ '-' :: rest).length := by
      simp
    split
    · next negative =>
      have reads : year? ('-' :: (padded 4 year.natAbs ++ '-' :: rest)) =
          some (-(year.natAbs : Int), '-' :: rest) := by
        show ((number? _ _).map _) = _
        rw [number?_padded within (.inr stops)]
        rfl
      rw [List.cons_append, reads, Int.ofNat_natAbs_of_nonpos (Int.le_of_lt negative), Int.neg_neg]
    · next positive =>
      have reads : year? ('+' :: (padded 4 year.natAbs ++ '-' :: rest)) =
          some ((year.natAbs : Int), '-' :: rest) := by
        show ((number? _ _).map _) = _
        rw [number?_padded within (.inr stops)]
        rfl
      rw [List.cons_append, reads, Int.natAbs_of_nonneg (Int.not_lt.1 positive)]

theorem datePart?_toChars (valid : date.isValid = true) (rest : List Char) :
    datePart? (date.toChars ++ rest) = some (date, rest) := by
  have month := Date.month_of_isValid valid
  have day := Date.day_le_of_isValid valid
  simp only [datePart?, Date.toChars, List.append_assoc, List.cons_append, year?_yearChars, expect?,
    Option.bind_eq_bind, Option.bind_some, if_true, short?_padded (show date.month < 100 by omega),
    short?_padded (show date.day < 100 by omega), valid]

/-! ### Times -/

theorem secondPart?_toChars (valid : time.isValid = true) (rest : List Char) :
    secondPart? (time.toChars ++ rest) = some ({ time with nanosecond := 0 }, rest) := by
  obtain ⟨hour, minute, second, -⟩ := TimeOfDay.isValid_iff.1 valid
  have withoutSecond : TimeOfDay.isValid ⟨time.hour, time.minute, 0, 0⟩ = true :=
    TimeOfDay.isValid_iff.2 ⟨hour, minute, Nat.zero_le 60, (by decide : 0 < 1000000000)⟩
  have withSecond : TimeOfDay.isValid ⟨time.hour, time.minute, time.second, 0⟩ = true :=
    TimeOfDay.isValid_iff.2 ⟨hour, minute, second, (by decide : 0 < 1000000000)⟩
  simp only [secondPart?, minutePart?, TimeOfDay.toChars, List.append_assoc,
    List.cons_append, expect?, Option.bind_eq_bind, Option.bind_some, if_true,
    short?_padded (show time.hour < 100 by omega), short?_padded (show time.minute < 100 by omega),
    short?_padded (show time.second < 100 by omega), withoutSecond, withSecond]

theorem fractionPart?_padded {width value : Nat} (fits : value < 10 ^ width) (positive : 0 < width)
    (few : width ≤ 9) (stops : StopsDigits rest) :
    fractionPart? ('.' :: (padded width value ++ rest)) =
      some (value * 10 ^ (9 - width), rest) := by
  have length := length_padded fits positive
  have digits := length_filterMap_padded width value
  have taken : takeDigits 9 (padded width value ++ rest) =
      ((padded width value).filterMap digit?, rest) :=
    takeDigits_append isDigit_of_mem_padded (length.le.trans few) (.inr stops)
  rw [fractionPart?, taken]
  cases spelled : (padded width value).filterMap digit? with
  | nil =>
    rw [spelled, length] at digits
    exact absurd digits positive.ne
  | cons digit others =>
    show some (spell 10 (digit :: others) * 10 ^ (9 - (digit :: others).length),
        (spanDigits rest).2) = _
    rw [← spelled, spell_padded, digits, length, spanDigits_of_stops stops]

theorem fractionPart?_fractionChars (valid : time.isValid = true) (stops : StopsDigits rest)
    (noPoint : rest.head? ≠ some '.') :
    fractionPart? (time.fractionChars ++ rest) = some (time.nanosecond, rest) := by
  obtain ⟨-, -, -, nanosecond⟩ := TimeOfDay.isValid_iff.1 valid
  unfold TimeOfDay.fractionChars
  split
  · next none =>
    rw [List.nil_append, fractionPart?]
    · rw [none]
    · rintro after rfl
      exact noPoint rfl
  · split
    · next millis =>
      rw [List.cons_append, fractionPart?_padded (by omega) (by decide) (by decide) stops]
      congr 2
      omega
    · split
      · next micros =>
        rw [List.cons_append, fractionPart?_padded (by omega) (by decide) (by decide) stops]
        congr 2
        omega
      · rw [List.cons_append, fractionPart?_padded (by omega) (by decide) (by decide) stops]
        congr 2
        omega

/-! ### The whole text -/

theorem date?_toChars (valid : date.isValid = true) : date? date.toChars = some date := by
  have reads := datePart?_toChars valid []
  rw [List.append_nil] at reads
  rw [date?, reads, whole?]

/-- The fraction of a time of day is not written. -/
theorem time?_toChars (valid : time.isValid = true) :
    time? time.toChars = some { time with nanosecond := 0 } := by
  have reads := secondPart?_toChars valid []
  rw [List.append_nil] at reads
  rw [time?, reads, whole?, Option.some_or]

theorem dateTime?_toChars (valid : moment.IsValid) : dateTime? moment.toChars = some moment := by
  have date :=
    datePart?_toChars valid.date ('T' :: (moment.time.toChars ++ moment.time.fractionChars))
  have time := secondPart?_toChars valid.time moment.time.fractionChars
  have fraction : fractionPart? moment.time.fractionChars = some (moment.time.nanosecond, []) := by
    simpa using fractionPart?_fractionChars valid.time stopsDigits_nil nofun
  simp only [dateTime?, DateTime.toChars, List.append_assoc, List.cons_append, date, time,
    fraction, expect?, Option.bind_eq_bind, Option.bind_some, if_true, whole?, Option.some_or]

/-! ### Moments -/

theorem fixedDate?_toChars (valid : date.isValid = true)
    (fourDigits : 0 ≤ date.year ∧ date.year ≤ 9999) :
    fixedDate? (date.toChars ++ rest) = some (date, rest) := by
  have month := Date.month_of_isValid valid
  have day := Date.day_le_of_isValid valid
  simp only [fixedDate?, Date.toChars, Date.yearChars, if_pos fourDigits, List.append_assoc,
    List.cons_append, expect?, Option.bind_eq_bind, Option.bind_some, if_true,
    Int.toNat_of_nonneg fourDigits.1, fixed?_padded (show date.year.toNat < 10 ^ 4 by omega),
    fixed?_padded (show date.month < 10 ^ 2 by omega),
    fixed?_padded (show date.day < 10 ^ 2 by omega), Nat.reduceLT]

theorem fixedDate?_toChars_eq_none (outside : ¬ (0 ≤ date.year ∧ date.year ≤ 9999)) :
    fixedDate? (date.toChars ++ rest) = none := by
  have signed {sign : Char} {after : List Char} (notDigit : digit? sign = none) :
      fixedDate? (sign :: after) = none := by
    rw [fixedDate?, fixed?_eq_none (stopsDigits_cons notDigit) (by decide)]
    rfl
  unfold Date.toChars Date.yearChars
  rw [if_neg outside]
  split
  · exact signed rfl
  · exact signed rfl

theorem fixedTime?_toChars (valid : time.isValid = true) (stops : StopsDigits rest)
    (noPoint : rest.head? ≠ some '.') :
    fixedTime? (time.toChars ++ (time.fractionChars ++ rest)) = some (time, rest) := by
  obtain ⟨hour, minute, second, -⟩ := TimeOfDay.isValid_iff.1 valid
  simp only [fixedTime?, TimeOfDay.toChars, List.append_assoc, List.cons_append, expect?,
    Option.bind_eq_bind, Option.bind_some, if_true,
    fixed?_padded (show time.hour < 10 ^ 2 by omega),
    fixed?_padded (show time.minute < 10 ^ 2 by omega),
    fixed?_padded (show time.second < 10 ^ 2 by omega), Nat.reduceLT,
    fractionPart?_fractionChars valid stops noPoint]

theorem moment?_momentChars (valid : moment.IsValid) :
    moment? (momentChars moment) =
      if 0 ≤ moment.date.year ∧ moment.date.year ≤ 9999 then some moment else none := by
  have time : fixedTime? (moment.time.toChars ++ (moment.time.fractionChars ++ "+00:00".toList)) =
      some (moment.time, "+00:00".toList) :=
    fixedTime?_toChars valid.time (stopsDigits_cons rfl) nofun
  have offset : offset? "+00:00".toList = some (0, []) := by decide
  rw [moment?_eq, momentChars, DateTime.toChars, List.append_assoc, List.append_assoc,
    List.cons_append]
  split
  · next fourDigits =>
    simp only [fixedDate?_toChars valid.date fourDigits, afterMark?, time, offset,
      Option.bind_eq_bind, Option.bind_some, valid.date, valid.time, Bool.and_self, if_true, whole?]
    exact congrArg some (DateTime.minutesEarlier_zero valid)
  · next outside =>
    rw [fixedDate?_toChars_eq_none outside]
    rfl

end Calendar

end Backoffice
