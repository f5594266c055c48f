import Kata.Value.Basic
import Kata.Binary64.Arith
import Kata.Fault

/-! Equality and order of values. -/

namespace Kata

namespace Value

def magnitude? : Value → Option Extended
  | .bool b => some (.ofInt (if b then 1 else 0))
  | .int n => some (.ofInt n)
  | .float x => x.toExtended?
  | _ => Option.none

def scalarEquals : Value → Value → Bool
  | .none, .none => true
  | .str s, .str t => s == t
  | a, b =>
    a.isNumber && b.isNumber &&
      match a.magnitude?, b.magnitude? with
      | some x, some y => x.compare y == .eq
      | _, _ => false

def lookup? (entries : List (Value × Value)) (key : Value) : Option Value :=
  (entries.find? fun e => scalarEquals key e.1).map (·.2)

mutual

/-- Equality of values. -/
def equals : Value → Value → Bool
  | .list xs, .list ys => equalsList xs ys
  | .dict xs, .dict ys => xs.length == ys.length && equalsEntries xs ys
  | a, b => scalarEquals a b

def equalsList : List Value → List Value → Bool
  | [], [] => true
  | x :: xs, y :: ys => equals x y && equalsList xs ys
  | _, _ => false

def equalsEntries : List (Value × Value) → List (Value × Value) → Bool
  | [], _ => true
  | (k, v) :: rest, ys =>
    (match lookup? ys k with
     | some w => equals v w
     | Option.none => false) && equalsEntries rest ys

end

end Value

/-- An order comparison and its operator symbol. -/
inductive Comparison where
  | lt
  | le
  | gt
  | ge
deriving DecidableEq, Repr

namespace Comparison

def symbol : Comparison → String
  | .lt => "<"
  | .le => "<="
  | .gt => ">"
  | .ge => ">="

def holds : Comparison → Ordering → Bool
  | .lt, o => o == .lt
  | .le, o => o != .gt
  | .gt, o => o == .gt
  | .ge, o => o != .lt

end Comparison

namespace Value

mutual

def compareBy (op : Comparison) : Value → Value → Except Fault Bool
  | .list xs, .list ys => compareItems op xs ys
  | .str s, .str t => .ok (op.holds (compare s t))
  | a, b =>
    if a.isNumber && b.isNumber then
      .ok (match a.magnitude?, b.magnitude? with
        | some x, some y => op.holds (x.compare y)
        | _, _ => false)
    else .error (.notOrderable op.symbol a.typeName b.typeName)

def compareItems (op : Comparison) : List Value → List Value → Except Fault Bool
  | x :: xs, y :: ys => if equals x y then compareItems op xs ys else compareBy op x y
  | xs, ys => .ok (op.holds (compare xs.length ys.length))

end

end Value

end Kata
