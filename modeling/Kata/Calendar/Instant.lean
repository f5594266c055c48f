import Kata.Calendar.Civil
import Kata.Value.Basic
import Kata.Binary64.Arith
import Kata.Fault

/-! Instants: seconds since the start of 1970 with a microsecond part, and the values that name
one. -/

namespace Kata.Calendar

/-- Seconds since the start of 1970 and a microsecond part below one million. -/
structure Instant where
  seconds : Int
  micro : Nat
deriving DecidableEq, Repr

def fitsSeconds (n : Int) : Bool := -2 ^ 63 ≤ n && n < 2 ^ 63

def millionBinary : Binary64 := Binary64.ofInt 1000000

def Instant.ofBinary (x : Binary64) : Except Fault Instant :=
  if x.isNaN then .error .timestampNaN
  else
    match x.truncInt?, ((x.fract).mul millionBinary).roundHalfEvenInt? with
    | some whole, some part =>
      let (whole, part) :=
        if part ≥ 1000000 then (whole + 1, part - 1000000)
        else if part < 0 then (whole - 1, part + 1000000)
        else (whole, part)
      if fitsSeconds whole then .ok ⟨whole, part.toNat⟩ else .error .timestampRange
    | _, _ => .error .timestampRange

/-- The instant a value names. -/
def Instant.ofValue : Value → Except Fault Instant
  | .bool b => .ok ⟨if b then 1 else 0, 0⟩
  | .int n => if fitsSeconds n then .ok ⟨n, 0⟩ else .error .timestampRange
  | .float x => Instant.ofBinary x
  | v => .error (.notInteger v.typeName)

def wrap32 (n : Int) : Int := (n + 2 ^ 31) % 2 ^ 32 - 2 ^ 31

def platformYear (year : Int) : Except Fault Int :=
  let fromBase := year - 1900
  if -2 ^ 31 ≤ fromBase ∧ fromBase < 2 ^ 31 then .ok (wrap32 (fromBase + 1900))
  else .error .yearBeyondPlatform

def checkedYear (seconds : Int) : Except Fault Unit := do
  let year ← platformYear (DateTime.ofSeconds seconds 0).date.year
  if year < 1 ∨ year > 9999 then throw (.yearOutOfRange year)

def Instant.toDateTime (t : Instant) : Except Fault DateTime := do
  checkedYear t.seconds
  -- the day before is converted too, to find a repeated hour
  checkedYear (t.seconds - 86400)
  return DateTime.ofSeconds t.seconds t.micro

def Instant.toUtcDateTime (t : Instant) : Except Fault DateTime := do
  checkedYear t.seconds
  return DateTime.ofSeconds t.seconds t.micro

/-- The seconds since the start of 1970 of a broken-down time in universal time, as the platform's
`mktime` gives them; the day of the week is not read. -/
def TimeTuple.mktime (tt : TimeTuple) : Except Fault Int :=
  let seconds := (Date.toDays ⟨tt.year, tt.month, tt.day⟩) * 86400 + tt.hour * 3600 +
    tt.minute * 60 + tt.second
  if fitsSeconds seconds then .ok seconds else .error .mktimeRange

end Kata.Calendar
