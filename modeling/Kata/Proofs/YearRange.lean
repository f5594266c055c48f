import Kata.Proofs.MailDate
import Mathlib

/-! The years a moment can show, and the seconds that have one. -/

namespace Kata.Calendar

theorem daysThroughYear_le_of_le {a b : Int} (le : a ≤ b) :
    daysThroughYear a ≤ daysThroughYear b := by
  unfold daysThroughYear
  omega

theorem daysThroughYear_add_one (y : Int) :
    daysThroughYear y + 365 ≤ daysThroughYear (y + 1) := by
  unfold daysThroughYear
  omega

theorem Date.toDays_firstOfYear (y : Int) :
    (⟨y, 1, 1⟩ : Date).toDays = daysThroughYear (y - 1) + 306 - 719468 := by
  rw [← daysThroughYear_era]
  simp [Date.toDays, monthStart]
  ring

theorem Date.ofMarch_year {era yoe doy : Int} (low : 0 ≤ doy) (high : doy ≤ 365) :
    (Date.ofMarch era yoe (monthOfYear doy) doy).year =
      yoe + era * 400 + if 306 ≤ doy then 1 else 0 := by
  simp only [Date.ofMarch, monthOfYear]
  split_ifs <;> omega

theorem Date.ofDays_year_march (days : Int) : ∃ marchYear doy : Int,
    0 ≤ doy ∧ doy ≤ 365 ∧ days + 719468 = daysThroughYear marchYear + doy ∧
      (Date.ofDays days).year = marchYear + if 306 ≤ doy then 1 else 0 := by
  rw [Date.ofDays_eq]
  dsimp only
  generalize eraIs : (days + 719468) / 146097 = era
  generalize dayOfEra : days + 719468 - era * 146097 = doe
  have eraDay : 0 ≤ doe ∧ doe ≤ 146096 := by
    omega
  obtain ⟨yearLow, yearHigh, startLow, startHigh⟩ := yearOfEra_bounds eraDay.1 eraDay.2
  rw [Date.ofMarch_year (by omega) startHigh]
  have eraOfYear : (yearOfEra doe + era * 400) / 400 = era := by omega
  refine ⟨yearOfEra doe + era * 400, doe - yearStart (yearOfEra doe), by omega, startHigh, ?_,
    rfl⟩
  rw [← daysThroughYear_era, eraOfYear, Int.add_sub_cancel]
  omega

theorem Date.ofDays_year_between (days : Int) :
    (⟨(Date.ofDays days).year, 1, 1⟩ : Date).toDays ≤ days ∧
      days < (⟨(Date.ofDays days).year + 1, 1, 1⟩ : Date).toDays := by
  obtain ⟨marchYear, doy, low, high, counted, year⟩ := Date.ofDays_year_march days
  have before := daysThroughYear_add_one (marchYear - 1)
  have after := daysThroughYear_add_one marchYear
  rw [year, Date.toDays_firstOfYear, Date.toDays_firstOfYear]
  split_ifs <;> simp only [Int.add_zero, Int.add_sub_cancel, Int.sub_add_cancel] at * <;> omega

theorem Date.toDays_firstOfYear_le {y z : Int} (le : y ≤ z) :
    (⟨y, 1, 1⟩ : Date).toDays ≤ (⟨z, 1, 1⟩ : Date).toDays := by
  rw [Date.toDays_firstOfYear, Date.toDays_firstOfYear]
  have := daysThroughYear_le_of_le (show y - 1 ≤ z - 1 by omega)
  omega

theorem Date.le_year_ofDays_iff (y days : Int) :
    y ≤ (Date.ofDays days).year ↔ (⟨y, 1, 1⟩ : Date).toDays ≤ days := by
  obtain ⟨after, before⟩ := Date.ofDays_year_between days
  constructor
  · intro le
    exact (Date.toDays_firstOfYear_le le).trans after
  · intro reached
    by_contra later
    have := Date.toDays_firstOfYear_le (show (Date.ofDays days).year + 1 ≤ y by omega)
    omega

theorem le_year_ofSeconds_iff (y seconds : Int) :
    y ≤ (DateTime.ofSeconds seconds 0).date.year ↔
      (⟨y, 1, 1⟩ : Date).toDays * 86400 ≤ seconds := by
  simp only [DateTime.ofSeconds]
  rw [Date.le_year_ofDays_iff]
  omega

theorem one_le_year_ofSeconds_iff (seconds : Int) :
    1 ≤ (DateTime.ofSeconds seconds 0).date.year ↔ -62135596800 ≤ seconds := by
  rw [le_year_ofSeconds_iff, show (⟨1, 1, 1⟩ : Date).toDays = -719162 by decide]
  omega

theorem tenThousand_le_year_ofSeconds_iff (seconds : Int) :
    10000 ≤ (DateTime.ofSeconds seconds 0).date.year ↔ 253402300800 ≤ seconds := by
  rw [le_year_ofSeconds_iff, show (⟨10000, 1, 1⟩ : Date).toDays = 2932897 by decide]
  omega

/-- The year of the date at a count of seconds lies in 1 to 9999 exactly for the seconds from the
start of 0001-01-01 to the end of 9999-12-31. -/
theorem year_ofSeconds_in_range_iff (seconds : Int) :
    (1 ≤ (DateTime.ofSeconds seconds 0).date.year ∧
      (DateTime.ofSeconds seconds 0).date.year ≤ 9999) ↔
      -62135596800 ≤ seconds ∧ seconds ≤ 253402300799 := by
  have low := one_le_year_ofSeconds_iff seconds
  have high := tenThousand_le_year_ofSeconds_iff seconds
  omega

theorem checkedYear_fault {seconds : Int} {fault : Fault}
    (failed : checkedYear seconds = .error fault) :
    fault = .yearBeyondPlatform ∧
        ¬(-2 ^ 31 ≤ (DateTime.ofSeconds seconds 0).date.year - 1900 ∧
          (DateTime.ofSeconds seconds 0).date.year - 1900 < 2 ^ 31) ∨
      (-2 ^ 31 ≤ (DateTime.ofSeconds seconds 0).date.year - 1900 ∧
        (DateTime.ofSeconds seconds 0).date.year - 1900 < 2 ^ 31) ∧
      fault = .yearOutOfRange (wrap32 (DateTime.ofSeconds seconds 0).date.year) := by
  simp only [checkedYear, platformYear] at failed
  generalize (DateTime.ofSeconds seconds 0).date.year = year at failed ⊢
  by_cases platform : -2 ^ 31 ≤ year - 1900 ∧ year - 1900 < 2 ^ 31
  · rw [if_pos platform] at failed
    simp only [bind, Except.bind, Int.sub_add_cancel] at failed
    split at failed
    · cases failed
      exact .inr ⟨platform, rfl⟩
    · cases failed
  · rw [if_neg platform] at failed
    cases failed
    exact .inl ⟨rfl, platform⟩

theorem checkedYear_eq_error (seconds : Int)
    (outside : ¬(1 ≤ (DateTime.ofSeconds seconds 0).date.year ∧
      (DateTime.ofSeconds seconds 0).date.year ≤ 9999)) :
    ∃ fault, checkedYear seconds = .error fault := by
  cases checked : checkedYear seconds with
  | error fault => exact ⟨fault, rfl⟩
  | ok _ => exact absurd ((checkedYear_eq_ok seconds).mp checked) outside

theorem wrap32_of_small {year : Int} (low : -2 ^ 31 ≤ year) (high : year < 2 ^ 31) :
    wrap32 year = year := by
  unfold wrap32
  omega

namespace Moment

theorem ofValue_of_asInt {v : Value} {n : Int} (integral : v.asInt? = some n) :
    Instant.ofValue v = if fitsSeconds n then .ok ⟨n, 0⟩ else .error .timestampRange := by
  cases v with
  | bool b =>
    simp only [Value.asInt?, Option.some.injEq] at integral
    subst integral
    cases b <;> rfl
  | int m =>
    simp only [Value.asInt?, Option.some.injEq] at integral
    subst integral
    rfl
  | _ => cases integral

theorem dateTime_of_asInt {v : Value} {n : Int} (integral : v.asInt? = some n) :
    (⟨v⟩ : Moment).dateTime =
      if fitsSeconds n then
        (do checkedYear n; checkedYear (n - 86400); pure (DateTime.ofSeconds n 0))
      else .error .timestampRange := by
  simp only [dateTime, ofValue_of_asInt integral]
  split <;> rfl

theorem dateTime_isOk_iff {v : Value} {n : Int} (integral : v.asInt? = some n) :
    (∃ t, (⟨v⟩ : Moment).dateTime = .ok t) ↔
      fitsSeconds n ∧ checkedYear n = .ok () ∧ checkedYear (n - 86400) = .ok () := by
  rw [dateTime_of_asInt integral]
  split
  · rename_i fits
    cases checkedYear n with
    | error f => simp [bind, Except.bind]
    | ok u =>
      cases checkedYear (n - 86400) with
      | error f => simp [bind, Except.bind]
      | ok w => simp [bind, Except.bind, pure, Except.pure, fits]
  · simp [*]

theorem dateTime_isOk_iff_range {v : Value} {n : Int} (integral : v.asInt? = some n) :
    (∃ t, (⟨v⟩ : Moment).dateTime = .ok t) ↔ -62135510400 ≤ n ∧ n ≤ 253402300799 := by
  rw [dateTime_isOk_iff integral, checkedYear_eq_ok, checkedYear_eq_ok,
    year_ofSeconds_in_range_iff, year_ofSeconds_in_range_iff]
  simp only [fitsSeconds, Bool.and_eq_true, decide_eq_true_eq]
  omega

theorem iso8601_eq_error {m : Moment} {fault : Fault} (failed : m.dateTime = .error fault) :
    m.iso8601 = .error fault := by
  simp [iso8601, failed, Except.map]

theorem rfc2822_eq_error {m : Moment} {fault : Fault} (failed : m.dateTime = .error fault) :
    m.rfc2822 = .error fault := by
  simp [rfc2822, failed, bind, Except.bind]

theorem rfc2822_isOk {m : Moment} {t : DateTime} (found : m.dateTime = .ok t) :
    ∃ line, m.rfc2822 = .ok line := by
  obtain ⟨instant, -, checked, -, rfl⟩ := (dateTime_eq_ok_iff m t).mp found
  have small := natAbs_lt_of_checkedYear checked
  have fits : fitsSeconds (DateTime.ofSeconds instant.seconds instant.micro).toSeconds := by
    simp only [DateTime.toSeconds_ofSeconds, fitsSeconds, Bool.and_eq_true, decide_eq_true_eq]
    omega
  simp only [rfc2822, found, bind, Except.bind]
  rw [TimeTuple.mktime_timeTuple _ fits, DateTime.toSeconds_ofSeconds]
  exact ⟨_, formatDate_ofInt checked⟩

theorem dateTime_firstDay {v : Value} {n : Int} (integral : v.asInt? = some n)
    (low : -62135596800 ≤ n) (high : n < -62135510400) :
    (⟨v⟩ : Moment).dateTime = .error (.yearOutOfRange 0) := by
  have current : checkedYear n = .ok () := by
    rw [checkedYear_eq_ok, year_ofSeconds_in_range_iff]
    omega
  have yearZero : (DateTime.ofSeconds (n - 86400) 0).date.year = 0 := by
    have atLeast := le_year_ofSeconds_iff 0 (n - 86400)
    rw [show (⟨0, 1, 1⟩ : Date).toDays = -719528 by decide] at atLeast
    have below := one_le_year_ofSeconds_iff (n - 86400)
    omega
  have previous : checkedYear (n - 86400) = .error (.yearOutOfRange 0) := by
    obtain ⟨fault, failed⟩ := checkedYear_eq_error (n - 86400) (by omega)
    rcases checkedYear_fault failed with ⟨rfl, beyond⟩ | ⟨platform, rfl⟩
    · rw [yearZero] at beyond
      omega
    · rw [failed, yearZero]
      rfl
  have fits : fitsSeconds n := by
    simp only [fitsSeconds, Bool.and_eq_true, decide_eq_true_eq]
    omega
  rw [dateTime_of_asInt integral, if_pos fits]
  simp [current, previous, bind, Except.bind]

theorem dateTime_before_calendar {v : Value} {n : Int} (integral : v.asInt? = some n)
    (early : n < -62135596800) :
    ∃ fault, (⟨v⟩ : Moment).dateTime = .error fault ∧
      (fault = .timestampRange ∨ fault = .yearBeyondPlatform ∨
        ∃ year ≤ 0, fault = .yearOutOfRange year) := by
  rw [dateTime_of_asInt integral]
  split
  · obtain ⟨fault, failed⟩ :=
      checkedYear_eq_error n (by rw [year_ofSeconds_in_range_iff]; omega)
    refine ⟨fault, by simp [failed, bind, Except.bind], ?_⟩
    have notYet : (DateTime.ofSeconds n 0).date.year ≤ 0 := by
      have reached := one_le_year_ofSeconds_iff n
      omega
    rcases checkedYear_fault failed with ⟨rfl, -⟩ | ⟨platform, rfl⟩
    · exact .inr (.inl rfl)
    · rw [wrap32_of_small (by omega) (by omega)]
      exact .inr (.inr ⟨_, notYet, rfl⟩)
  · exact ⟨_, rfl, .inl rfl⟩

theorem dateTime_after_calendar {v : Value} {n : Int} (integral : v.asInt? = some n)
    (late : 253402300799 < n) :
    ∃ fault, (⟨v⟩ : Moment).dateTime = .error fault ∧
      (fault = .timestampRange ∨ fault = .yearBeyondPlatform ∨
        ∃ year, fault = .yearOutOfRange year ∧
          (10000 ≤ year ∨ year + 2 ^ 32 = (DateTime.ofSeconds n 0).date.year)) := by
  rw [dateTime_of_asInt integral]
  split
  · obtain ⟨fault, failed⟩ :=
      checkedYear_eq_error n (by rw [year_ofSeconds_in_range_iff]; omega)
    refine ⟨fault, by simp [failed, bind, Except.bind], ?_⟩
    have past : 10000 ≤ (DateTime.ofSeconds n 0).date.year :=
      (tenThousand_le_year_ofSeconds_iff n).mpr (by omega)
    rcases checkedYear_fault failed with ⟨rfl, -⟩ | ⟨platform, rfl⟩
    · exact .inr (.inl rfl)
    · refine .inr (.inr ⟨_, rfl, ?_⟩)
      unfold wrap32
      omega
  · exact ⟨_, rfl, .inl rfl⟩

/-- How a moment made from a value standing for the integer `n` answers, as a function of `n`. -/
structure IntegralEpoch (v : Value) (n : Int) : Prop where
  /-- The date and time exist exactly from the start of 0001-01-02 to the end of 9999-12-31. -/
  dateTime_isOk :
    (∃ t, (⟨v⟩ : Moment).dateTime = .ok t) ↔ -62135510400 ≤ n ∧ n ≤ 253402300799
  iso8601_isOk :
    (∃ s, (⟨v⟩ : Moment).iso8601 = .ok s) ↔ -62135510400 ≤ n ∧ n ≤ 253402300799
  rfc2822_isOk :
    (∃ s, (⟨v⟩ : Moment).rfc2822 = .ok s) ↔ -62135510400 ≤ n ∧ n ≤ 253402300799
  /-- Both written forms fail as the date and time do. -/
  forms_fail : ∀ fault, (⟨v⟩ : Moment).dateTime = .error fault →
    (⟨v⟩ : Moment).iso8601 = .error fault ∧ (⟨v⟩ : Moment).rfc2822 = .error fault
  /-- The whole of 0001-01-01 fails, its day before lying in year 0. -/
  firstDay : -62135596800 ≤ n → n < -62135510400 →
    (⟨v⟩ : Moment).dateTime = .error (.yearOutOfRange 0)
  before : n < -62135596800 → ∃ fault, (⟨v⟩ : Moment).dateTime = .error fault ∧
    (fault = .timestampRange ∨ fault = .yearBeyondPlatform ∨
      ∃ year ≤ 0, fault = .yearOutOfRange year)
  /-- Past 9999 a year out of range is named as itself, or wrapped to 32 bits from `2^31` on. -/
  after : 253402300799 < n → ∃ fault, (⟨v⟩ : Moment).dateTime = .error fault ∧
    (fault = .timestampRange ∨ fault = .yearBeyondPlatform ∨
      ∃ year, fault = .yearOutOfRange year ∧
        (10000 ≤ year ∨ year + 2 ^ 32 = (DateTime.ofSeconds n 0).date.year))

/-- A moment made from an integer or a truth value has a date and time, an ISO 8601 form and a
mail date line exactly from the start of 0001-01-02 to the end of 9999-12-31, and fails outside
as `IntegralEpoch` says. -/
theorem integralEpoch_of_asInt {v : Value} {n : Int} (integral : v.asInt? = some n) :
    IntegralEpoch v n := by
  have inRange := dateTime_isOk_iff_range integral
  refine ⟨inRange, ?_, ?_,
    fun fault failed => ⟨iso8601_eq_error failed, rfc2822_eq_error failed⟩,
    dateTime_firstDay integral, dateTime_before_calendar integral,
    dateTime_after_calendar integral⟩
  · rw [← inRange]
    constructor
    · rintro ⟨s, written⟩
      obtain ⟨t, found, -⟩ := (iso8601_eq_ok_iff _ s).mp written
      exact ⟨t, found⟩
    · rintro ⟨t, found⟩
      exact ⟨_, (iso8601_eq_ok_iff _ _).mpr ⟨t, found, rfl⟩⟩
  · rw [← inRange]
    constructor
    · rintro ⟨s, written⟩
      cases found : (⟨v⟩ : Moment).dateTime with
      | error fault => rw [rfc2822_eq_error found] at written; cases written
      | ok t => exact ⟨t, rfl⟩
    · rintro ⟨t, found⟩
      exact rfc2822_isOk found

theorem integralEpoch_of_asInt_wrappedYear :
    (Value.int 67767976233532800).asInt? = some 67767976233532800 ∧
      IntegralEpoch (.int 67767976233532800) 67767976233532800 ∧
      (DateTime.ofSeconds 67767976233532800 0).date.year = 2147483648 ∧
      (⟨.int 67767976233532800⟩ : Moment).dateTime = .error (.yearOutOfRange (-2147483648)) :=
  ⟨rfl, integralEpoch_of_asInt rfl, by decide, by decide⟩

end Moment

end Kata.Calendar
