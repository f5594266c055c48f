import Kata.Calendar.Clean
import Kata.Calendar.Zones
import Kata.Calendar.Languages
import Kata.Calendar.Gloss
import Kata.Calendar.Absolute
import Kata.Calendar.Moment
import Kata.Binary64.Round

/-! A general reader of written dates, and moments made from text through a reader; statements
about moments made from text take the reader as a parameter. -/

namespace Kata.Calendar

open Unicode

inductive DateReading where
  | zoned
  | civil (t : DateTime)
deriving DecidableEq, Repr

def readStamp? (cs : List Char) : Option DateTime :=
  let ds := (cs.takeWhile isDecimal).map asciiDigit
  let after := cs.drop ds.length
  if (ds.length = 10 ∨ ds.length = 13 ∨ ds.length = 16) ∧ (after.isEmpty ∨ after.head? = some '.')
  then
    let micro := digitValue ((ds.drop 10).take 3) * 1000 + digitValue (ds.drop 13)
    some (DateTime.ofSeconds (digitValue (ds.take 10)) micro)
  else none

def brackets : List Char := ['\x7b', '\x7d', '(', ')', '<', '>', '[', ']']

def Lexicon.readDate? (x : Lexicon) (l : Language) (s : String) : Option DateReading := do
  if let some t := readStamp? s.toList then return .civil t
  let t := x.gloss l s
  if (trimmed t.toList).isEmpty then none
  let t := String.ofList (t.toList.filter fun c => !brackets.contains c)
  match dropZone? t with
  | some rest => (readWords? rest l.order).map fun _ => .zoned
  | none => (readWords? t l.order).map .civil

/-- Reads a fully specified date in the first language that covers it and reads it. -/
def readDate? (s : String) : Option DateReading :=
  let s := clean s
  let bare := (dropZone? s).filter (· ≠ s)
  lexicons.findSome? fun (l, x) =>
    if x.covers l s || bare.any (x.covers l) then x.readDate? l s else none

def DateTime.epochSeconds (t : DateTime) : Binary64 :=
  let micros := t.toSeconds * 1000000 + t.micro
  Binary64.ofRatio (micros < 0) micros.natAbs 1000000

/-- The moment of a date that `read` finds in a text. The value must be a string naming a date
without a zone: a zoned date cannot be set against the naive start of 1970. -/
def Moment.ofReading (read : String → Option DateReading) (v : Value) : Except Fault Moment :=
  match v with
  | .str s =>
    match read s with
    | some (.civil t) => .ok ⟨.float t.epochSeconds⟩
    | some .zoned => .error .mixedOffsets
    | none => .error .dateUnreadable
  | _ => .error .dateNotText

/-- The moment of a written date, read by `readDate?`. -/
def Moment.ofText (v : Value) : Except Fault Moment := Moment.ofReading readDate? v

end Kata.Calendar
