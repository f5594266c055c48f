import Kata.Calendar.Civil

/-! The ISO 8601 form and the mail date line of a date and time. -/

namespace Kata.Calendar

def padded (width n : Nat) : String :=
  let ds := Nat.toDigits 10 n
  String.ofList (List.replicate (width - ds.length) '0' ++ ds)

def yearText (y : Int) : String :=
  if y < 0 then "-" ++ padded 3 y.natAbs else padded 4 y.toNat

def DateTime.isoText (t : DateTime) : String :=
  let d := t.date
  let base := yearText d.year ++ "-" ++ padded 2 d.month ++ "-" ++ padded 2 d.day ++ "T" ++
    padded 2 t.hour ++ ":" ++ padded 2 t.minute ++ ":" ++ padded 2 t.second
  if t.micro = 0 then base else base ++ "." ++ padded 6 t.micro

def dayAbbrevs : List String := ["Mon", "Tue", "Wed", "Thu", "Fri", "Sat", "Sun"]

def monthAbbrevs : List String :=
  ["Jan", "Feb", "Mar", "Apr", "May", "Jun", "Jul", "Aug", "Sep", "Oct", "Nov", "Dec"]

/-- The date line of mail for a broken-down time whose zone is unknown. -/
def TimeTuple.mailText (tt : TimeTuple) : String :=
  (dayAbbrevs[tt.weekday]?.getD "") ++ ", " ++ padded 2 tt.day ++ " " ++
    (monthAbbrevs[tt.month - 1]?.getD "") ++ " " ++ yearText tt.year ++ " " ++
    padded 2 tt.hour ++ ":" ++ padded 2 tt.minute ++ ":" ++ padded 2 tt.second ++ " -0000"

end Kata.Calendar
