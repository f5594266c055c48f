import Kata.Prelude

/-! Proleptic Gregorian dates over all integer years, counted by days from 1 January 1970. -/

namespace Kata.Calendar

/-- A day of the proleptic Gregorian calendar. -/
structure Date where
  year : Int
  month : Nat
  day : Nat
deriving DecidableEq, Repr

def yearStart (yoe : Int) : Int := 365 * yoe + yoe / 4 - yoe / 100

def yearOfEra (doe : Int) : Int := (doe - doe / 1460 + doe / 36524 - doe / 146096) / 365

def monthStart (mp : Int) : Int := (153 * mp + 2) / 5

def monthOfYear (doy : Int) : Int := (5 * doy + 2) / 153

/-- The date `days` days after 1 January 1970. -/
def Date.ofDays (days : Int) : Date :=
  let z := days + 719468
  let era := z / 146097
  let doe := z - era * 146097
  let yoe := yearOfEra doe
  let doy := doe - yearStart yoe
  let mp := monthOfYear doy
  let day := doy - monthStart mp + 1
  let month := if mp < 10 then mp + 3 else mp - 9
  let year := yoe + era * 400 + (if month ≤ 2 then 1 else 0)
  ⟨year, month.toNat, day.toNat⟩

def Date.toDays (d : Date) : Int :=
  let y : Int := if d.month ≤ 2 then d.year - 1 else d.year
  let era := y / 400
  let yoe := y - era * 400
  let m : Int := d.month
  let mp := if m > 2 then m - 3 else m + 9
  let doy := monthStart mp + d.day - 1
  let doe := yearStart yoe + doy
  era * 146097 + doe - 719468

def Date.weekday (d : Date) : Nat := ((d.toDays + 3) % 7).toNat

def isLeapYear (y : Int) : Bool := y % 4 == 0 && (y % 100 != 0 || y % 400 == 0)

def monthLength (y : Int) (m : Nat) : Nat :=
  match m with
  | 2 => if isLeapYear y then 29 else 28
  | 4 | 6 | 9 | 11 => 30
  | _ => 31

def daysBeforeMonth : List Nat := [0, 31, 59, 90, 120, 151, 181, 212, 243, 273, 304, 334]

def Date.ordinal (d : Date) : Int :=
  let y := d.year - 1
  let leapDay : Nat := if d.month > 2 && isLeapYear d.year then 1 else 0
  y * 365 + y / 4 - y / 100 + y / 400 + (daysBeforeMonth[d.month - 1]?.getD 0 + leapDay : Nat) +
    d.day

def Date.valid (d : Date) : Bool :=
  1 ≤ d.month && d.month ≤ 12 && 1 ≤ d.day && d.day ≤ monthLength d.year d.month

/-- A date and a time of day to the microsecond. -/
structure DateTime where
  date : Date
  hour : Nat
  minute : Nat
  second : Nat
  micro : Nat
deriving DecidableEq, Repr

def DateTime.ofSeconds (seconds : Int) (micro : Nat) : DateTime :=
  let days := seconds / 86400
  let rest := (seconds % 86400).toNat
  ⟨Date.ofDays days, rest / 3600, rest % 3600 / 60, rest % 60, micro⟩

def DateTime.toSeconds (t : DateTime) : Int :=
  t.date.toDays * 86400 + t.hour * 3600 + t.minute * 60 + t.second

structure TimeTuple where
  year : Int
  month : Nat
  day : Nat
  hour : Nat
  minute : Nat
  second : Nat
  weekday : Nat
deriving DecidableEq, Repr

def DateTime.timeTuple (t : DateTime) : TimeTuple :=
  ⟨t.date.year, t.date.month, t.date.day, t.hour, t.minute, t.second,
    ((t.date.ordinal + 6) % 7).toNat⟩

end Kata.Calendar
