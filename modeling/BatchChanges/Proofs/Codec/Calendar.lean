import BatchChanges.Time.Calendar
import Mathlib.Tactic.ByContra

/-! # Days and dates

Every day has a date of the calendar, and the date has the number of the day. The eras are all
alike, so that it is enough to look at the 146097 days of one. The year of a day grows with the
day, and it is right on the first and on the last day of each year; so it is right on all days in
between.
-/

namespace BatchChanges.Date

/-- The first day of a year of an era, counted from the start of the era. -/
def firstDay (year : Int) : Int := 365 * year + year / 4 - year / 100 + year / 400

/-- The year that a day of an era is in. -/
def yearOfDay (day : Int) : Int := (day - day / 1460 + day / 36524 - day / 146096) / 365

private theorem yearOfDay_mono {earlier later : Int} (start : 0 ≤ earlier) (order : earlier ≤ later)
    (inside : later < 146097) : yearOfDay earlier ≤ yearOfDay later := by
  have leaps : later / 1460 - earlier / 1460 ≤ later - earlier := by omega
  have eras : later / 146096 - earlier / 146096 ≤ later / 36524 - earlier / 36524 := by omega
  exact Int.ediv_le_ediv (by decide) (by omega)

private theorem yearOfDay_bounds {year : Int} (start : 0 ≤ year) (inside : year < 400) :
    yearOfDay (firstDay year) = year ∧ yearOfDay (firstDay (year + 1) - 1) = year := by
  obtain ⟨year, rfl⟩ := Int.eq_ofNat_of_zero_le start
  have all : ∀ year : Nat, year < 400 → yearOfDay (firstDay year) = year ∧
      yearOfDay (firstDay (year + 1) - 1) = year := by decide +kernel
  exact all year (by omega)

private theorem firstDay_mono {earlier later : Int} (order : earlier ≤ later) :
    firstDay earlier ≤ firstDay later := by
  simp only [firstDay]
  rcases Int.lt_or_eq_of_le order with less | rfl <;> omega

private theorem firstDay_nonneg {year : Int} (start : 0 ≤ year) : 0 ≤ firstDay year := by
  rw [firstDay]
  omega

private theorem firstDay_le_of_lt {year : Int} (inside : year < 400) :
    firstDay (year + 1) ≤ 146097 := by
  rw [firstDay]
  omega

private theorem yearOfDay_range {day : Int} (start : 0 ≤ day) (inside : day < 146097) :
    0 ≤ yearOfDay day ∧ yearOfDay day < 400 := by
  have first := yearOfDay_mono (Int.le_refl 0) start inside
  have last := yearOfDay_mono start (show day ≤ 146096 by omega) (by decide)
  rw [show yearOfDay 0 = 0 from rfl] at first
  rw [show yearOfDay 146096 = 399 from rfl] at last
  omega

/-- A day lies between the first day of its year and that of the next one. -/
theorem firstDay_le {day : Int} (start : 0 ≤ day) (inside : day < 146097) :
    firstDay (yearOfDay day) ≤ day ∧ day < firstDay (yearOfDay day + 1) := by
  obtain ⟨first, last⟩ := yearOfDay_range start inside
  constructor
  · by_contra before
    -- The day is at most the last one of the year before.
    have positive : 0 < yearOfDay day := by
      rcases Int.lt_or_eq_of_le first with positive | zero
      · exact positive
      · rw [← zero, show firstDay 0 = 0 from rfl] at before
        exact absurd start before
    have earlier : 0 ≤ yearOfDay day - 1 := by omega
    have inEra : yearOfDay day - 1 < 400 := by omega
    have bounds := yearOfDay_bounds earlier inEra
    have below := firstDay_le_of_lt inEra
    rw [Int.sub_add_cancel] at bounds below
    have grown := yearOfDay_mono start (show day ≤ firstDay (yearOfDay day) - 1 by omega) (by omega)
    omega
  · by_contra after
    by_cases next : yearOfDay day + 1 < 400
    · have later : 0 ≤ yearOfDay day + 1 := by omega
      have bounds := yearOfDay_bounds later next
      have grown := yearOfDay_mono (firstDay_nonneg later) (Int.not_lt.mp after) inside
      omega
    · rw [show yearOfDay day + 1 = 400 by omega, show firstDay 400 = 146097 from rfl] at after
      exact absurd inside after

/-- A year has 365 days, or 366 if it ends in the February of a leap year. -/
theorem length_of_year {year : Int} (start : 0 ≤ year) (inside : year < 400) :
    firstDay (year + 1) - firstDay year = if isLeapYear (year + 1) then 366 else 365 := by
  obtain ⟨year, rfl⟩ := Int.eq_ofNat_of_zero_le start
  have all : ∀ year : Nat, year < 400 →
      firstDay (year + 1) - firstDay year = if isLeapYear (year + 1) then 366 else 365 := by
    decide +kernel
  exact all year (by omega)

private theorem isLeapYear_add (year era : Int) :
    isLeapYear (year + era * 400) = isLeapYear year := by
  have four : (year + era * 400) % 4 = year % 4 := by omega
  have hundred : (year + era * 400) % 100 = year % 100 := by omega
  have all : (year + era * 400) % 400 = year % 400 := by omega
  rw [isLeapYear, isLeapYear, four, hundred, all]

/-- The date of a day of a year that begins in March. -/
def ofParts (era year dayOfYear : Int) : Date :=
  let shiftedMonth := (5 * dayOfYear + 2) / 153
  let month := if shiftedMonth < 10 then shiftedMonth + 3 else shiftedMonth - 9
  { year := year + era * 400 + (if month ≤ 2 then 1 else 0)
    month := month.toNat
    day := (dayOfYear - (153 * shiftedMonth + 2) / 5 + 1).toNat }

/-- The parts of a day: its era, the year and the day of the year. -/
theorem exists_parts (number : Int) : ∃ era year dayOfYear : Int,
    (0 ≤ year ∧ year < 400) ∧
    (0 ≤ dayOfYear ∧ dayOfYear < if isLeapYear (year + 1) then 366 else 365) ∧
    number + 719468 = era * 146097 + firstDay year + dayOfYear ∧
    ofDayNumber number = ofParts era year dayOfYear := by
  have start : 0 ≤ (number + 719468) % 146097 := by omega
  have inside : (number + 719468) % 146097 < 146097 := by omega
  obtain ⟨first, last⟩ := yearOfDay_range start inside
  obtain ⟨after, before⟩ := firstDay_le start inside
  have length := length_of_year first last
  have day : firstDay (yearOfDay ((number + 719468) % 146097)) =
      365 * yearOfDay ((number + 719468) % 146097) +
        yearOfDay ((number + 719468) % 146097) / 4 -
        yearOfDay ((number + 719468) % 146097) / 100 := by
    rw [firstDay]
    omega
  refine ⟨(number + 719468) / 146097, yearOfDay ((number + 719468) % 146097),
    (number + 719468) % 146097 - firstDay (yearOfDay ((number + 719468) % 146097)),
    ⟨first, last⟩, ⟨?_, ?_⟩, ?_, ?_⟩
  · omega
  · omega
  · omega
  · rw [day]
    rfl

/-- Months and days of a year that begins in March. -/
theorem parts_of_day {dayOfYear : Int} (start : 0 ≤ dayOfYear) (inside : dayOfYear < 366) :
    let date := ofParts 0 0 dayOfYear
    (1 ≤ date.month ∧ date.month ≤ 12) ∧ (1 ≤ date.day ∧ date.day ≤ daysInMonth 4 date.month) ∧
      (date.month = 2 ∧ date.day = 29 → dayOfYear = 365) ∧
      date.year = (if date.month ≤ 2 then 1 else 0) ∧
      (153 * ((date.month + 9) % 12 : Nat) + 2) / 5 + (date.day : Int) - 1 = dayOfYear := by
  obtain ⟨day, rfl⟩ := Int.eq_ofNat_of_zero_le start
  have all : ∀ day : Nat, day < 366 →
      let date := ofParts 0 0 day
      (1 ≤ date.month ∧ date.month ≤ 12) ∧
        (1 ≤ date.day ∧ date.day ≤ daysInMonth 4 date.month) ∧
        (date.month = 2 ∧ date.day = 29 → (day : Int) = 365) ∧
        date.year = (if date.month ≤ 2 then 1 else 0) ∧
        (153 * ((date.month + 9) % 12 : Nat) + 2) / 5 + (date.day : Int) - 1 = day := by
    decide +kernel
  exact all day (by omega)

/-- Eras and years only change the year of a date. -/
theorem ofParts_eq (era year dayOfYear : Int) :
    ofParts era year dayOfYear =
      { ofParts 0 0 dayOfYear with
        year := year + era * 400 + (ofParts 0 0 dayOfYear).year } := by
  simp [ofParts]

/-- The date of a day has the number of the day. -/
theorem dayNumber_ofDayNumber (number : Int) : (ofDayNumber number).dayNumber = number := by
  obtain ⟨era, year, dayOfYear, ⟨first, last⟩, ⟨start, inside⟩, sum, same⟩ := exists_parts number
  obtain ⟨-, -, -, civil, day⟩ := parts_of_day start (by split at inside <;> omega)
  have years : (if (ofParts 0 0 dayOfYear).month ≤ 2
      then year + era * 400 + (ofParts 0 0 dayOfYear).year - 1
      else year + era * 400 + (ofParts 0 0 dayOfYear).year) = year + era * 400 := by
    rw [civil]
    split <;> omega
  have inEra : (year + era * 400) % 400 = year := by omega
  have eras : (year + era * 400) / 400 = era := by omega
  rw [same, ofParts_eq]
  simp only [dayNumber, years, inEra, eras, day]
  rw [firstDay] at sum
  omega

private theorem daysInMonth_leap (year : Int) (month : Nat) :
    daysInMonth 4 month = daysInMonth year month ∨
      month = 2 ∧ isLeapYear year = false ∧ daysInMonth 4 month = 29 ∧
        daysInMonth year month = 28 := by
  simp only [daysInMonth]
  split
  · cases leap : isLeapYear year with
    | true => exact .inl rfl
    | false => exact .inr ⟨rfl, rfl, rfl, rfl⟩
  · exact .inl rfl
  · exact .inl rfl
  · exact .inl rfl
  · exact .inl rfl
  · exact .inl rfl

/-- The first year of the calendar begins in January, and the last one ends in December. -/
theorem year_bounds {era year dayOfYear number : Int} (first : -96465292 ≤ number)
    (last : number ≤ 95026236) (inEra : 0 ≤ year ∧ year < 400)
    (inYear : 0 ≤ dayOfYear ∧ dayOfYear < 366)
    (sum : number + 719468 = era * 146097 + firstDay year + dayOfYear) :
    (-262143 ≤ year + era * 400 ∨ -262144 = year + era * 400 ∧ 306 ≤ dayOfYear) ∧
      (year + era * 400 < 262142 ∨ year + era * 400 = 262142 ∧ dayOfYear < 306) := by
  have start := firstDay_mono inEra.1
  have stop := firstDay_mono (Int.le_of_lt_add_one (b := 399) inEra.2)
  rw [show firstDay 0 = 0 from rfl] at start
  rw [show firstDay 399 = 145731 from rfl] at stop
  constructor
  · rcases Int.lt_trichotomy (year + era * 400) (-262144) with before | same | after
    · have early := firstDay_mono (show year ≤ 255 by omega)
      rw [show firstDay 255 = 93136 from rfl] at early
      omega
    · obtain rfl : year = 256 := by omega
      rw [show firstDay 256 = 93502 from rfl] at sum
      omega
    · omega
  · rcases Int.lt_trichotomy (year + era * 400) 262142 with before | same | after
    · exact .inl before
    · obtain rfl : year = 142 := by omega
      rw [show firstDay 142 = 51864 from rfl] at sum
      omega
    · have late := firstDay_mono (show 143 ≤ year by omega)
      rw [show firstDay 143 = 52229 from rfl] at late
      omega

/-- It is a date of the calendar as long as the calendar lasts. -/
theorem isValid_ofDayNumber {number : Int} (first : -96465292 ≤ number)
    (last : number ≤ 95026236) : (ofDayNumber number).isValid = true := by
  obtain ⟨era, year, dayOfYear, ⟨year_nonneg, year_lt⟩, ⟨start, inside⟩, sum, same⟩ :=
    exists_parts number
  obtain ⟨⟨january, december⟩, ⟨one, bounded⟩, leapDay, civil, day⟩ :=
    parts_of_day start (by split at inside <;> omega)
  have short : daysInMonth 4 (ofParts 0 0 dayOfYear).month ≤ 31 := by
    simp only [daysInMonth]
    split <;> decide
  have years : -262143 ≤ year + era * 400 + (ofParts 0 0 dayOfYear).year ∧
      year + era * 400 + (ofParts 0 0 dayOfYear).year ≤ 262142 := by
    have bounds := year_bounds first last ⟨year_nonneg, year_lt⟩
      ⟨start, by split at inside <;> omega⟩ sum
    rw [civil]
    split <;> omega
  have days : (ofParts 0 0 dayOfYear).day ≤
      daysInMonth (year + era * 400 + (ofParts 0 0 dayOfYear).year)
        (ofParts 0 0 dayOfYear).month := by
    rcases daysInMonth_leap (year + era * 400 + (ofParts 0 0 dayOfYear).year)
      (ofParts 0 0 dayOfYear).month with usual | ⟨february, common, all, fewer⟩
    · rw [← usual]
      exact bounded
    · -- There is no leap day in this year.
      have common : isLeapYear (year + 1) = false := by
        rw [← isLeapYear_add (year + 1) era, ← common, civil, february]
        congr 1
        omega
      rw [common, if_neg Bool.false_ne_true] at inside
      rw [fewer]
      rw [all] at bounded
      by_contra more
      have := leapDay ⟨february, by omega⟩
      omega
  rw [same, ofParts_eq]
  simp only [isValid, years, january, december, one, days, decide_true, Bool.and_self]

end BatchChanges.Date
