import Kata.Calendar.Language
import Kata.Unicode.Blank
import Kata.Unicode.Digit

/-! Formats of dates and times: directives, each reading one part from the front of the text. -/

namespace Kata.Calendar

open Kata.Unicode

/-- One directive of a format. -/
inductive Directive where
  | month
  | day
  | shortYear
  | year
  | hour
  | clockHour
  | minute
  | second
  | fraction
  | meridian
  | monthName
  | monthAbbrev
  | weekdayName
  | weekdayAbbrev
  | blank
  | mark (c : Char)
deriving DecidableEq, Repr

structure Fields where
  year : Option Nat := none
  month : Option Nat := none
  day : Option Nat := none
  hour : Option Nat := none
  clockHour : Option Nat := none
  minute : Option Nat := none
  second : Option Nat := none
  fraction : Option (List Char) := none
  pm : Option Bool := none
  weekday : Bool := false
deriving Repr

def asciiDigits : String := "0123456789"

def Directive.patterns : Directive → List (List String)
  | .month => [["1", "012"], ["0", "123456789"], ["123456789"]]
  | .day => [["3", "01"], ["12", asciiDigits], ["0", "123456789"], ["123456789"]]
  | .shortYear => [[asciiDigits, asciiDigits]]
  | .year => [[asciiDigits, asciiDigits, asciiDigits, asciiDigits]]
  | .hour => [["2", "0123"], ["01", asciiDigits], [asciiDigits]]
  | .clockHour => [["1", "012"], ["0", "123456789"], ["123456789"]]
  | .minute => [["012345", asciiDigits], [asciiDigits]]
  | .second => [["6", "01"], ["012345", asciiDigits], [asciiDigits]]
  | _ => []

def fitsPattern (p : List String) (cs : List Char) : Bool :=
  p.length ≤ cs.length && (p.zip cs).all fun (allowed, c) => allowed.contains c

def nameAt (names : List String) (cs : List Char) : Option (Nat × Nat) :=
  let low := cs.map Char.toLower
  (names.findIdx? fun n => n.toList.isPrefixOf low).map fun i => (i, (names.getD i "").length)

def Fields.setNumber (f : Fields) (d : Directive) (n : Nat) : Fields :=
  match d with
  | .month => { f with month := some n }
  | .day => { f with day := some n }
  | .shortYear => { f with year := some (if n ≥ 69 then 1900 + n else 2000 + n) }
  | .year => { f with year := some n }
  | .hour => { f with hour := some n }
  | .clockHour => { f with clockHour := some n }
  | .minute => { f with minute := some n }
  | .second => { f with second := some n }
  | _ => f

def Directive.read (d : Directive) (f : Fields) (cs : List Char) : Option (Fields × List Char) :=
  match d with
  | .fraction =>
    let ds := (cs.takeWhile fun c => asciiDigits.contains c).take 6
    if ds.isEmpty then none else some ({ f with fraction := some ds }, cs.drop ds.length)
  | .meridian =>
    match cs.take 2 |>.map Char.toLower with
    | ['a', 'm'] => some ({ f with pm := some false }, cs.drop 2)
    | ['p', 'm'] => some ({ f with pm := some true }, cs.drop 2)
    | _ => none
  | .blank =>
    let bs := cs.takeWhile isBlank
    if bs.isEmpty then none else some (f, cs.drop bs.length)
  | .mark c => if cs.head? = some c then some (f, cs.drop 1) else none
  | .monthName =>
    (nameAt monthKeys cs).map fun (i, n) => ({ f with month := some (i + 1) }, cs.drop n)
  | .monthAbbrev =>
    (nameAt (monthKeys.map fun n => String.ofList (n.toList.take 3)) cs).map fun (i, n) =>
      ({ f with month := some (i + 1) }, cs.drop n)
  | .weekdayName =>
    (nameAt weekdayKeys cs).map fun (_, n) => ({ f with weekday := true }, cs.drop n)
  | .weekdayAbbrev =>
    (nameAt (weekdayKeys.map fun n => String.ofList (n.toList.take 3)) cs).map fun (_, n) =>
      ({ f with weekday := true }, cs.drop n)
  | _ =>
    (d.patterns.find? (fitsPattern · cs)).map fun p =>
      (f.setNumber d (digitValue (cs.take p.length)), cs.drop p.length)

/-- Reads a whole text by a format. -/
def readFormat (format : List Directive) (cs : List Char) : Option Fields := do
  let (f, rest) ← format.foldlM (fun (f, cs) d => d.read f cs) (({} : Fields), cs)
  if rest.isEmpty then some f else none

structure DatePart where
  year : Nat
  month : Nat
  day : Nat
  weekday : Bool

def datePart? (d : Directive) (s : String) : Option DatePart := do
  let f ← readFormat [d] s.toList
  let year := f.year.getD 1900
  if year = 0 then none
  some ⟨year, f.month.getD 1, f.day.getD 1, f.weekday⟩

structure Clock where
  hour : Nat
  minute : Nat
  second : Nat
  micro : Nat
deriving DecidableEq, Repr

def timeFormats : List (List Directive) :=
  let hms : List Directive := [.hour, .mark ':', .minute, .mark ':', .second]
  let ims : List Directive := [.clockHour, .mark ':', .minute, .mark ':', .second]
  let pm : List Directive := [.blank, .meridian]
  let frac : List Directive := [.mark '.', .fraction]
  [hms ++ frac, ims ++ frac ++ pm, hms ++ frac ++ pm, hms, ims ++ pm, hms ++ pm,
    [.hour, .mark ':', .minute], [.clockHour, .mark ':', .minute] ++ pm,
    [.hour, .mark ':', .minute] ++ pm, [.clockHour] ++ pm, [.hour] ++ pm]

def Fields.clock? (f : Fields) : Option Clock := do
  let hour ←
    match f.clockHour with
    | some h => some (h % 12 + if f.pm = some true then 12 else 0)
    | none => f.hour
  let second := f.second.getD 0
  if second > 59 then none
  let micro := (f.fraction.map fun ds => digitValue ds * 10 ^ (6 - ds.length)).getD 0
  some ⟨hour, f.minute.getD 0, second, micro⟩

def readClock? (s : String) : Option Clock :=
  let cs := ((s.toList.dropWhile isBlank).reverse.dropWhile isBlank).reverse
  timeFormats.findSome? fun format => (readFormat format cs).bind Fields.clock?

end Kata.Calendar
