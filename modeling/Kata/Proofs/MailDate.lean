import Kata.Calendar.Moment
import Kata.Proofs.DayCount
import Kata.Proofs.Binary64Layout
import Kata.Proofs.Draws

/-! The mail date line of a moment shows its civil date and time. -/

namespace Kata.Calendar

def DateTime.wholeSecondTuple (t : DateTime) : TimeTuple :=
  ⟨t.date.year, t.date.month, t.date.day, t.hour, t.minute, t.second, t.date.weekday⟩

theorem DateTime.timeTuple_eq (t : DateTime)
    (monthBounds : 1 ≤ t.date.month ∧ t.date.month ≤ 12) :
    t.timeTuple = t.wholeSecondTuple := by
  rw [DateTime.timeTuple, DateTime.wholeSecondTuple, Date.ordinal_weekday _ monthBounds]

theorem DateTime.timeTuple_ofSeconds (seconds : Int) (micro : Nat) :
    (DateTime.ofSeconds seconds micro).timeTuple = (DateTime.ofSeconds seconds 0).timeTuple := rfl

theorem TimeTuple.mktime_timeTuple (t : DateTime) (fits : fitsSeconds t.toSeconds) :
    t.timeTuple.mktime = .ok t.toSeconds := by
  have sameDate : (⟨t.date.year, t.date.month, t.date.day⟩ : Date) = t.date := rfl
  simp only [TimeTuple.mktime, DateTime.timeTuple, sameDate]
  show (if fitsSeconds t.toSeconds then Except.ok t.toSeconds
    else Except.error Fault.mktimeRange) = _
  rw [if_pos fits]

theorem checkedYear_eq_ok (seconds : Int) :
    checkedYear seconds = .ok () ↔
      1 ≤ (DateTime.ofSeconds seconds 0).date.year ∧
        (DateTime.ofSeconds seconds 0).date.year ≤ 9999 := by
  simp only [checkedYear, platformYear]
  generalize (DateTime.ofSeconds seconds 0).date.year = year
  by_cases platform : -2 ^ 31 ≤ year - 1900 ∧ year - 1900 < 2 ^ 31
  · rw [if_pos platform]
    simp only [bind, Except.bind]
    -- a year past 2^31 wraps to a negative one, so the wrapped year passes only where it is
    -- the year itself, inside 1 to 9999
    have wrapped : (1 ≤ wrap32 (year - 1900 + 1900) ∧ wrap32 (year - 1900 + 1900) ≤ 9999) ↔
        (1 ≤ year ∧ year ≤ 9999) := by
      unfold wrap32
      omega
    by_cases outside : wrap32 (year - 1900 + 1900) < 1 ∨ wrap32 (year - 1900 + 1900) > 9999
    · rw [if_pos outside]
      simp only [throw, throwThe, MonadExceptOf.throw, reduceCtorEq, false_iff]
      omega
    · rw [if_neg outside]
      simp only [pure, Except.pure, true_iff]
      omega
  · rw [if_neg platform]
    simp only [bind, Except.bind, reduceCtorEq, false_iff]
    omega

theorem natAbs_lt_of_checkedYear {seconds : Int} (checked : checkedYear seconds = .ok ()) :
    seconds.natAbs < 2 ^ 53 := by
  obtain ⟨yearLow, yearHigh⟩ := (checkedYear_eq_ok seconds).mp checked
  have bounds := Date.ofDays_year_bounds (seconds / 86400)
  simp only [DateTime.ofSeconds] at yearLow yearHigh
  omega

theorem checkedYear_of_natAbs_lt {seconds : Int} (near : seconds.natAbs < 2 ^ 34) :
    checkedYear seconds = .ok () := by
  have bounds := Date.ofDays_year_bounds (seconds / 86400)
  rw [checkedYear_eq_ok]
  simp only [DateTime.ofSeconds]
  omega

theorem Instant.ofBinary_ofInt {n : Int} (small : n.natAbs < 2 ^ 53) :
    Instant.ofBinary (Binary64.ofInt n) = .ok ⟨n, 0⟩ := by
  obtain ⟨k, shape⟩ := Binary64.shape_ofInt small
  obtain ⟨j, million⟩ := Binary64.shape_ofInt (n := 1000000) (by decide)
  have notNaN : (Binary64.ofInt n).isNaN = false := by
    simp [Binary64.isNaN, shape]
  have fits : fitsSeconds n = true := by
    simp only [fitsSeconds, Bool.and_eq_true, decide_eq_true_eq]
    omega
  simp only [Instant.ofBinary, notNaN, Binary64.truncInt?_ofInt small, Binary64.fract_ofInt small,
    millionBinary, Binary64.mul_signedZero million, Binary64.roundHalfEvenInt?_signedZero]
  simp [fits]

theorem formatDate_ofInt {n : Int} (checked : checkedYear n = .ok ()) :
    formatDate (Binary64.ofInt n) = .ok (DateTime.ofSeconds n 0).timeTuple.mailText := by
  simp [formatDate, Instant.ofBinary_ofInt (natAbs_lt_of_checkedYear checked),
    Instant.toUtcDateTime, checked, bind, Except.bind, pure, Except.pure]

namespace Moment

theorem dateTime_eq_ok_iff (m : Moment) (t : DateTime) :
    m.dateTime = .ok t ↔ ∃ instant : Instant, Instant.ofValue m.epoch = .ok instant ∧
      checkedYear instant.seconds = .ok () ∧ checkedYear (instant.seconds - 86400) = .ok () ∧
      DateTime.ofSeconds instant.seconds instant.micro = t := by
  simp only [dateTime, Instant.toDateTime, bind_eq_ok, pure, Except.pure, Except.ok.injEq]
  constructor
  · rintro ⟨instant, read, ⟨⟩, first, ⟨⟩, second, built⟩
    exact ⟨instant, read, first, second, built⟩
  · rintro ⟨instant, read, first, second, built⟩
    exact ⟨instant, read, (), first, (), second, built⟩

theorem iso8601_eq_ok_iff (m : Moment) (s : String) :
    m.iso8601 = .ok s ↔ ∃ t : DateTime, m.dateTime = .ok t ∧ t.isoText ++ "Z" = s := by
  cases found : m.dateTime with
  | error fault => simp [iso8601, found, Except.map]
  | ok t => simp [iso8601, found, Except.map]

/-- Wherever the ISO 8601 form exists, the mail date line exists too and shows the same date and
time to the whole second, with the weekday of that date. -/
theorem rfc2822_eq_of_iso8601 {m : Moment} {s : String} (iso : m.iso8601 = .ok s) :
    ∃ t : DateTime, m.dateTime = .ok t ∧ s = t.isoText ++ "Z" ∧
      m.rfc2822 = .ok t.wholeSecondTuple.mailText := by
  obtain ⟨t, found, rfl⟩ := (iso8601_eq_ok_iff m s).mp iso
  refine ⟨t, found, rfl, ?_⟩
  obtain ⟨instant, -, checked, -, rfl⟩ := (dateTime_eq_ok_iff m t).mp found
  have small := natAbs_lt_of_checkedYear checked
  have fits : fitsSeconds (DateTime.ofSeconds instant.seconds instant.micro).toSeconds := by
    simp only [DateTime.toSeconds_ofSeconds, fitsSeconds, Bool.and_eq_true, decide_eq_true_eq]
    omega
  have monthBounds := Date.ofDays_month_bounds (instant.seconds / 86400)
  simp only [rfc2822, found, bind, Except.bind]
  rw [TimeTuple.mktime_timeTuple _ fits]
  simp only [DateTime.toSeconds_ofSeconds]
  rw [formatDate_ofInt checked, ← DateTime.timeTuple_ofSeconds _ instant.micro,
    DateTime.timeTuple_eq _ monthBounds]

theorem rfc2822_eq_of_iso8601_firstDay :
    (⟨.int (-62135510400)⟩ : Moment).iso8601 = .ok "0001-01-02T00:00:00Z" ∧
      ∃ t : DateTime, (⟨.int (-62135510400)⟩ : Moment).dateTime = .ok t ∧
        "0001-01-02T00:00:00Z" = t.isoText ++ "Z" ∧
        (⟨.int (-62135510400)⟩ : Moment).rfc2822 = .ok t.wholeSecondTuple.mailText :=
  have iso : (⟨.int (-62135510400)⟩ : Moment).iso8601 = .ok "0001-01-02T00:00:00Z" := by rfl
  ⟨iso, rfc2822_eq_of_iso8601 iso⟩

end Moment

end Kata.Calendar
