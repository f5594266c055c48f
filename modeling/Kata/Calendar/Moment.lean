import Kata.Calendar.Instant
import Kata.Calendar.Render
import Kata.Value.Text
import Kata.Value.Access

/-! Moments: a value kept as seconds since 1970 and read as an instant when a date is asked for. -/

namespace Kata.Calendar

/-- A moment: a value taken as seconds since the start of 1970. -/
structure Moment where
  epoch : Value
deriving Repr

def formatDate (stamp : Binary64) : Except Fault String := do
  return (← (← Instant.ofBinary stamp).toUtcDateTime).timeTuple.mailText

namespace Moment

def text (m : Moment) : String := "<MayaDT epoch=" ++ m.epoch.toText ++ ">"

/-- The civil date and time of the moment. -/
def dateTime (m : Moment) : Except Fault DateTime := do
  (← Instant.ofValue m.epoch).toDateTime

def isoText (m : Moment) : Except Fault String := m.dateTime.map DateTime.isoText

def iso8601 (m : Moment) : Except Fault String := m.dateTime.map (·.isoText ++ "Z")

def rfc2822 (m : Moment) : Except Fault String := do
  let stamp ← (← m.dateTime).timeTuple.mktime
  formatDate (Binary64.ofInt stamp)

def adjust (_m : Moment) (args : List Value) : Except Fault Value :=
  if args.length ≤ 1 then .ok .none else .error (.adjustArity (args.length + 1))

def adjustSpread (m : Moment) (args : Value) : Except Fault Value :=
  match args.items with
  | .ok xs => m.adjust xs
  | .error _ => .error (.spreadNotIterable "spz_maya_v1.MayaDT.adjust" args.typeName)

end Moment

end Kata.Calendar
