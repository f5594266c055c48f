import Kata.Calendar.Civil
import Mathlib.Tactic.IntervalCases

/-! Day counts and civil dates, by eras of 400 years, centuries, spans of four years and years. -/

namespace Kata.Calendar

/-- A day of an era written as whole centuries, four-year spans and years, and a day of the year;
day 365 is only the leap day at the end of a fourth year. -/
structure EraSplit (doe : Int) where
  century : Int
  span : Int
  year : Int
  day : Int
  centuryBounds : 0 ≤ century ∧ century ≤ 3
  spanBounds : 0 ≤ span ∧ span ≤ 24
  yearBounds : 0 ≤ year ∧ year ≤ 3
  dayBounds : 0 ≤ day ∧ day ≤ 365
  leapDay : day = 365 → year = 3 ∧ (span < 24 ∨ century = 3)
  total : doe = 36524 * century + 1461 * span + 365 * year + day

theorem yearStart_split {century span year : Int} (spanBounds : 0 ≤ span ∧ span ≤ 24)
    (yearBounds : 0 ≤ year ∧ year ≤ 3) :
    yearStart (100 * century + 4 * span + year) = 36524 * century + 1461 * span + 365 * year := by
  unfold yearStart
  omega

theorem yearOfEra_split {doe : Int} (split : EraSplit doe) :
    yearOfEra doe = 100 * split.century + 4 * split.span + split.year := by
  obtain ⟨c, q, y, r, ⟨c0, c1⟩, ⟨q0, q1⟩, ⟨y0, y1⟩, ⟨r0, r1⟩, leapDay, rfl⟩ :=
    split
  dsimp only
  -- the leap days the formula takes out: one a span and one fewer a century, each counted
  -- late by at most one day
  have spans : (36524 * c + 1461 * q + 365 * y + r) / 1460 =
      25 * c + q + (24 * c + q + 365 * y + r) / 1460 := by omega
  have spansLate : (24 * c + q + 365 * y + r) / 1460 ≤ 1 := by omega
  have centuries : (36524 * c + 1461 * q + 365 * y + r) / 36524 =
      c + (1461 * q + 365 * y + r) / 36524 := by omega
  unfold yearOfEra
  rcases Int.lt_or_eq_of_le r1 with ordinary | rfl
  · have centuriesLate : (1461 * q + 365 * y + r) / 36524 = 0 := by omega
    have eras : (36524 * c + 1461 * q + 365 * y + r) / 146096 = 0 := by omega
    omega
  · obtain ⟨rfl, lastSpan⟩ := leapDay rfl
    have leapLate : (24 * c + q + 365 * 3 + 365) / 1460 = 1 := by omega
    rcases lastSpan with early | rfl
    · have centuriesLate : (1461 * q + 365 * 3 + 365) / 36524 = 0 := by omega
      have eras : (36524 * c + 1461 * q + 365 * 3 + 365) / 146096 = 0 := by omega
      omega
    · have centuriesLate :
          (1461 * q + 365 * 3 + 365) / 36524 = if q = 24 then 1 else 0 := by
        split <;> omega
      have eras :
          (36524 * 3 + 1461 * q + 365 * 3 + 365) / 146096 = if q = 24 then 1 else 0 := by
        split <;> omega
      split at eras <;> omega

def EraSplit.of {doe : Int} (low : 0 ≤ doe) (high : doe ≤ 146096) : EraSplit doe :=
  let century := min (doe / 36524) 3
  let inCentury := doe - 36524 * century
  let span := min (inCentury / 1461) 24
  let inSpan := inCentury - 1461 * span
  let year := min (inSpan / 365) 3
  { century, span, year, day := inSpan - 365 * year
    centuryBounds := by omega
    spanBounds := by omega
    yearBounds := by omega
    dayBounds := by omega
    leapDay := by omega
    total := by omega }

theorem yearOfEra_bounds {doe : Int} (low : 0 ≤ doe) (high : doe ≤ 146096) :
    0 ≤ yearOfEra doe ∧ yearOfEra doe ≤ 399 ∧
      yearStart (yearOfEra doe) ≤ doe ∧ doe - yearStart (yearOfEra doe) ≤ 365 := by
  let split := EraSplit.of low high
  have found := yearOfEra_split split
  have start : yearStart (100 * split.century + 4 * split.span + split.year) =
      36524 * split.century + 1461 * split.span + 365 * split.year :=
    yearStart_split split.spanBounds split.yearBounds
  have := split.centuryBounds
  have := split.spanBounds
  have := split.yearBounds
  have := split.dayBounds
  have := split.total
  rw [found, start]
  omega

theorem yearOfEra_yearStart_add {yoe doy : Int} (yearBounds : 0 ≤ yoe ∧ yoe ≤ 399)
    (dayBounds : 0 ≤ doy ∧ doy ≤ 365)
    (leapDay : doy = 365 → yoe % 4 = 3 ∧ (yoe % 100 ≠ 99 ∨ yoe = 399)) :
    yearOfEra (yearStart yoe + doy) = yoe := by
  let split : EraSplit (yearStart yoe + doy) :=
    { century := yoe / 100, span := yoe % 100 / 4, year := yoe % 4, day := doy
      centuryBounds := by omega
      spanBounds := by omega
      yearBounds := by omega
      dayBounds := dayBounds
      leapDay := by omega
      total := by unfold yearStart; omega }
  rw [yearOfEra_split split]
  show 100 * (yoe / 100) + 4 * (yoe % 100 / 4) + yoe % 4 = yoe
  omega

theorem monthOfYear_bounds {doy : Int} (low : 0 ≤ doy) (high : doy ≤ 365) :
    0 ≤ monthOfYear doy ∧ monthOfYear doy ≤ 11 ∧ monthStart (monthOfYear doy) ≤ doy := by
  unfold monthOfYear monthStart
  omega

theorem monthOfYear_eq {mp doy : Int} (low : monthStart mp ≤ doy)
    (high : doy < monthStart (mp + 1)) : monthOfYear doy = mp := by
  unfold monthOfYear
  unfold monthStart at low high
  omega

def Date.ofMarch (era yoe mp doy : Int) : Date :=
  let month := if mp < 10 then mp + 3 else mp - 9
  ⟨yoe + era * 400 + (if month ≤ 2 then 1 else 0), month.toNat, (doy - monthStart mp + 1).toNat⟩

theorem Date.ofDays_eq (days : Int) :
    Date.ofDays days =
      let era := (days + 719468) / 146097
      let doe := days + 719468 - era * 146097
      let doy := doe - yearStart (yearOfEra doe)
      Date.ofMarch era (yearOfEra doe) (monthOfYear doy) doy := rfl

theorem Date.toDays_ofMarch {era yoe mp doy : Int} (yearBounds : 0 ≤ yoe ∧ yoe ≤ 399)
    (monthBounds : 0 ≤ mp ∧ mp ≤ 11) (afterStart : monthStart mp ≤ doy) :
    (Date.ofMarch era yoe mp doy).toDays = era * 146097 + yearStart yoe + doy - 719468 := by
  have dayCast : (((doy - monthStart mp + 1).toNat : Nat) : Int) = doy - monthStart mp + 1 :=
    Int.toNat_of_nonneg (by omega)
  have eraCount : (yoe + era * 400) / 400 = era := by omega
  have yearOfCount : yoe + era * 400 - era * 400 = yoe := by omega
  unfold Date.ofMarch Date.toDays
  by_cases spring : mp < 10
  · have monthCast : (((mp + 3).toNat : Nat) : Int) = mp + 3 := Int.toNat_of_nonneg (by omega)
    simp only [spring, if_true, monthCast, dayCast]
    rw [if_neg (by omega), if_neg (by omega), if_pos (by omega), Int.add_zero, eraCount,
      yearOfCount, Int.add_sub_cancel]
    omega
  · have monthCast : (((mp - 9).toNat : Nat) : Int) = mp - 9 := Int.toNat_of_nonneg (by omega)
    simp only [spring, if_false, monthCast, dayCast]
    rw [if_pos (by omega), if_pos (by omega), if_neg (by omega), Int.add_sub_cancel, eraCount,
      yearOfCount, Int.sub_add_cancel]
    omega

theorem Date.ofDays_march (days : Int) : ∃ yoe mp doy : Int,
    (0 ≤ yoe ∧ yoe ≤ 399) ∧ (0 ≤ mp ∧ mp ≤ 11) ∧
      monthStart mp ≤ doy ∧ doy ≤ 365 ∧
      Date.ofDays days = Date.ofMarch ((days + 719468) / 146097) yoe mp doy ∧
      days = (days + 719468) / 146097 * 146097 + yearStart yoe + doy - 719468 := by
  have eraDay : 0 ≤ days + 719468 - (days + 719468) / 146097 * 146097 ∧
      days + 719468 - (days + 719468) / 146097 * 146097 ≤ 146096 := by
    omega
  obtain ⟨yearLow, yearHigh, startLow, startHigh⟩ := yearOfEra_bounds eraDay.1 eraDay.2
  obtain ⟨monthLow, monthHigh, monthStartLow⟩ := monthOfYear_bounds (by omega) startHigh
  exact ⟨_, _, _, ⟨yearLow, yearHigh⟩, ⟨monthLow, monthHigh⟩, monthStartLow, startHigh,
    Date.ofDays_eq days, by omega⟩

theorem Date.toDays_ofDays (days : Int) : (Date.ofDays days).toDays = days := by
  obtain ⟨yoe, mp, doy, yearBounds, monthBounds, afterStart, -, named, total⟩ :=
    Date.ofDays_march days
  rw [named, Date.toDays_ofMarch yearBounds monthBounds afterStart]
  omega

theorem Date.ofDays_month_bounds (days : Int) :
    1 ≤ (Date.ofDays days).month ∧ (Date.ofDays days).month ≤ 12 := by
  obtain ⟨yoe, mp, doy, -, ⟨monthLow, monthHigh⟩, -, -, named, -⟩ := Date.ofDays_march days
  rw [named]
  unfold Date.ofMarch
  dsimp only
  split <;> omega

theorem Date.ofDays_year_bounds (days : Int) :
    400 * ((days + 719468) / 146097) ≤ (Date.ofDays days).year ∧
      (Date.ofDays days).year ≤ 400 * ((days + 719468) / 146097) + 400 := by
  obtain ⟨yoe, mp, doy, ⟨yearLow, yearHigh⟩, -, -, -, named, -⟩ := Date.ofDays_march days
  rw [named]
  unfold Date.ofMarch
  dsimp only
  split <;> omega

theorem Date.ofDays_era {era doe : Int} (low : 0 ≤ doe) (high : doe ≤ 146096) :
    Date.ofDays (era * 146097 + doe - 719468) =
      Date.ofMarch era (yearOfEra doe) (monthOfYear (doe - yearStart (yearOfEra doe)))
        (doe - yearStart (yearOfEra doe)) := by
  have eraFound : (era * 146097 + doe - 719468 + 719468) / 146097 = era := by omega
  have dayFound : era * 146097 + doe - 719468 + 719468 - era * 146097 = doe := by omega
  rw [Date.ofDays_eq]
  dsimp only
  rw [eraFound, dayFound]

def Date.marchMonth (d : Date) : Int := if (d.month : Int) > 2 then d.month - 3 else d.month + 9

def Date.marchYear (d : Date) : Int := if d.month ≤ 2 then d.year - 1 else d.year

def Date.marchDay (d : Date) : Int := monthStart d.marchMonth + d.day - 1

theorem Date.toDays_eq_march (d : Date) :
    d.toDays = d.marchYear / 400 * 146097 +
      (yearStart (d.marchYear - d.marchYear / 400 * 400) + d.marchDay) - 719468 := by
  simp only [Date.toDays, Date.marchYear, Date.marchMonth, Date.marchDay]

theorem Date.marchDay_bounds {d : Date} (valid : d.valid) :
    0 ≤ d.marchDay ∧ d.marchDay ≤ 365 ∧ d.marchDay < monthStart (d.marchMonth + 1) ∧
      (d.marchDay = 365 → d.month = 2 ∧ isLeapYear d.year) := by
  obtain ⟨year, month, day⟩ := d
  simp only [Date.valid, Bool.and_eq_true, decide_eq_true_eq] at valid
  obtain ⟨⟨⟨monthLow, monthHigh⟩, dayLow⟩, dayHigh⟩ := valid
  simp only [Date.marchDay, Date.marchMonth, monthStart]
  cases leapYear : isLeapYear year <;> interval_cases month <;>
    simp [monthLength, leapYear] at dayHigh ⊢ <;> omega

theorem Date.ofMarch_march {d : Date} (valid : d.valid) :
    Date.ofMarch (d.marchYear / 400) (d.marchYear - d.marchYear / 400 * 400) d.marchMonth
      d.marchDay = d := by
  obtain ⟨year, month, day⟩ := d
  simp only [Date.valid, Bool.and_eq_true, decide_eq_true_eq] at valid
  obtain ⟨⟨⟨monthLow, monthHigh⟩, dayLow⟩, -⟩ := valid
  unfold Date.marchDay
  by_cases winter : month ≤ 2
  · have monthFromMarch : Date.marchMonth ⟨year, month, day⟩ = month + 9 := by
      simp only [Date.marchMonth]
      rw [if_neg (by omega)]
    have yearFromMarch : Date.marchYear ⟨year, month, day⟩ = year - 1 := by
      simp only [Date.marchYear, winter, if_true]
    have monthBack :
        (if (month : Int) + 9 < 10 then (month : Int) + 9 + 3 else (month : Int) + 9 - 9) =
          month := by
      rw [if_neg (by omega)]
      omega
    rw [monthFromMarch, yearFromMarch]
    simp only [Date.ofMarch, monthBack, Date.mk.injEq, Int.toNat_natCast]
    refine ⟨?_, trivial, by omega⟩
    rw [if_pos (by omega)]
    omega
  · have monthFromMarch : Date.marchMonth ⟨year, month, day⟩ = month - 3 := by
      simp only [Date.marchMonth]
      rw [if_pos (by omega)]
    have yearFromMarch : Date.marchYear ⟨year, month, day⟩ = year := by
      simp only [Date.marchYear, winter, if_false]
    have monthBack :
        (if (month : Int) - 3 < 10 then (month : Int) - 3 + 3 else (month : Int) - 3 - 9) =
          month := by
      rw [if_pos (by omega)]
      omega
    rw [monthFromMarch, yearFromMarch]
    simp only [Date.ofMarch, monthBack, Date.mk.injEq, Int.toNat_natCast]
    refine ⟨?_, trivial, by omega⟩
    rw [if_neg (by omega)]
    omega

theorem Date.ofDays_toDays (d : Date) (valid : d.valid) : Date.ofDays d.toDays = d := by
  obtain ⟨dayLow, dayHigh, dayInMonth, leapDay⟩ := Date.marchDay_bounds valid
  have monthBounds : 0 ≤ d.marchMonth ∧ d.marchMonth ≤ 11 := by
    simp only [Date.valid, Bool.and_eq_true, decide_eq_true_eq] at valid
    unfold Date.marchMonth
    split <;> omega
  have monthStartLe : monthStart d.marchMonth ≤ d.marchDay := by
    simp only [Date.valid, Bool.and_eq_true, decide_eq_true_eq] at valid
    unfold Date.marchDay
    omega
  have yearBounds : 0 ≤ d.marchYear - d.marchYear / 400 * 400 ∧
      d.marchYear - d.marchYear / 400 * 400 ≤ 399 := by omega
  have leapYearEnd : d.marchDay = 365 →
      (d.marchYear - d.marchYear / 400 * 400) % 4 = 3 ∧
        ((d.marchYear - d.marchYear / 400 * 400) % 100 ≠ 99 ∨
          d.marchYear - d.marchYear / 400 * 400 = 399) := by
    intro last
    obtain ⟨february, leap⟩ := leapDay last
    simp only [Date.marchYear, february, show (2 : Nat) ≤ 2 from le_refl 2, if_true]
    simp only [isLeapYear, Bool.and_eq_true, beq_iff_eq, Bool.or_eq_true, bne_iff_ne] at leap
    omega
  have doeLow : 0 ≤ yearStart (d.marchYear - d.marchYear / 400 * 400) + d.marchDay := by
    unfold yearStart
    omega
  have doeHigh : yearStart (d.marchYear - d.marchYear / 400 * 400) + d.marchDay ≤ 146096 := by
    unfold yearStart at *
    omega
  have dayBack : yearStart (d.marchYear - d.marchYear / 400 * 400) + d.marchDay -
      yearStart (d.marchYear - d.marchYear / 400 * 400) = d.marchDay := by omega
  rw [Date.toDays_eq_march, Date.ofDays_era doeLow doeHigh,
    yearOfEra_yearStart_add yearBounds ⟨dayLow, dayHigh⟩ leapYearEnd, dayBack,
    monthOfYear_eq monthStartLe dayInMonth]
  exact Date.ofMarch_march valid

def daysThroughYear (y : Int) : Int := 365 * y + y / 4 - y / 100 + y / 400

theorem daysThroughYear_sub_one (y : Int) :
    daysThroughYear y = daysThroughYear (y - 1) + 365 + (if isLeapYear y then 1 else 0) := by
  unfold daysThroughYear isLeapYear
  by_cases leap : y % 4 = 0 ∧ (y % 100 ≠ 0 ∨ y % 400 = 0)
  · rw [if_pos (by simpa using leap)]
    omega
  · rw [if_neg (by simpa using leap)]
    omega

theorem daysThroughYear_era (y : Int) :
    y / 400 * 146097 + yearStart (y - y / 400 * 400) = daysThroughYear y := by
  unfold yearStart daysThroughYear
  omega

theorem Date.toDays_add_epoch (d : Date) :
    d.toDays + 719468 = daysThroughYear d.marchYear + d.marchDay := by
  rw [Date.toDays_eq_march, ← daysThroughYear_era]
  omega

theorem Date.ordinal_eq (d : Date) (monthBounds : 1 ≤ d.month ∧ d.month ≤ 12) :
    d.ordinal = d.toDays + 719163 := by
  have days := Date.toDays_add_epoch d
  obtain ⟨year, month, day⟩ := d
  obtain ⟨monthLow, monthHigh⟩ : 1 ≤ month ∧ month ≤ 12 := monthBounds
  have leapDays := daysThroughYear_sub_one year
  have yearsBefore : (year - 1) * 365 + (year - 1) / 4 - (year - 1) / 100 + (year - 1) / 400 =
      daysThroughYear (year - 1) := by
    unfold daysThroughYear
    omega
  simp only [Date.ordinal, daysBeforeMonth]
  rw [yearsBefore]
  simp only [Date.marchYear, Date.marchDay, Date.marchMonth, monthStart] at days
  generalize (Date.mk year month day).toDays = total at days ⊢
  cases leapYear : isLeapYear year
  · rw [if_neg (by simp [leapYear])] at leapDays
    interval_cases month <;> simp at days ⊢ <;> omega
  · rw [if_pos leapYear] at leapDays
    interval_cases month <;> simp at days ⊢ <;> omega

theorem Date.ordinal_weekday (d : Date) (monthBounds : 1 ≤ d.month ∧ d.month ≤ 12) :
    ((d.ordinal + 6) % 7).toNat = d.weekday := by
  rw [Date.ordinal_eq d monthBounds, Date.weekday]
  omega

theorem DateTime.toSeconds_ofSeconds (seconds : Int) (micro : Nat) :
    (DateTime.ofSeconds seconds micro).toSeconds = seconds := by
  simp only [DateTime.ofSeconds, DateTime.toSeconds, Date.toDays_ofDays]
  omega

theorem DateTime.ofSeconds_toSeconds (t : DateTime) (valid : t.date.valid)
    (clock : t.hour < 24 ∧ t.minute < 60 ∧ t.second < 60) :
    DateTime.ofSeconds t.toSeconds t.micro = t := by
  obtain ⟨date, hour, minute, second, micro⟩ := t
  obtain ⟨hourBound, minuteBound, secondBound⟩ : hour < 24 ∧ minute < 60 ∧ second < 60 :=
    clock
  have dayCount : (date.toDays * 86400 + hour * 3600 + minute * 60 + second : Int) / 86400 =
      date.toDays := by omega
  have timeOfDay :
      ((date.toDays * 86400 + hour * 3600 + minute * 60 + second : Int) % 86400).toNat =
        hour * 3600 + minute * 60 + second := by omega
  simp only [DateTime.ofSeconds, DateTime.toSeconds, dayCount, timeOfDay,
    Date.ofDays_toDays date valid, DateTime.mk.injEq]
  refine ⟨trivial, by omega, by omega, by omega, trivial⟩

end Kata.Calendar
