import Kata.Value.Arith
import Kata.Value.Access

/-! Exercises on numbers: products, day names, comparisons and even items. -/

namespace Kata.Drill

open Value

def product (a b : Value) : Except Fault Value := a.mul b

def weekdayNames : List String :=
  ["Monday", "Tuesday", "Wednesday", "Thursday", "Friday", "Saturday", "Sunday"]

def weekday (num : Value) : Except Fault Value := do
  if !(← compareBy .le (.int 1) num) then return .none
  if !(← compareBy .le num (.int 7)) then return .none
  match num.asInt? with
  | some n =>
    match weekdayNames[(n - 1).toNat]? with
    | some name => return .str name
    | Option.none => return .none
  | Option.none => return .none

inductive Verdict where
  | firstGreater
  | secondGreater
  | equal
deriving DecidableEq, Repr

def Verdict.text : Verdict → String
  | .firstGreater => "first is greater"
  | .secondGreater => "second is greater"
  | .equal => "they are equal"

/-- Compares two values: first `a > b`, then `a < b`; values ordered neither way are reported
equal, a NaN among them. -/
def verdict (a b : Value) : Except Fault Verdict := do
  if ← compareBy .gt a b then return .firstGreater
  if ← compareBy .lt a b then return .secondGreater
  return .equal

def compareNumbers (a b : Value) : Except Fault Value :=
  (verdict a b).map fun v => .str v.text

def evens (xs : List Value) : Except Fault (List Value) :=
  xs.filterM Value.isEven

def productOfEvens (arr : Value) : Except Fault Value := do
  let xs ← arr.items
  let step (acc : Value × Nat) (x : Value) : Except Fault (Value × Nat) := do
    if ← x.isEven then return (← acc.1.mul x, acc.2 + 1) else return acc
  let (total, count) ← xs.foldlM step (.int 1, 0)
  if count = 0 then return .str "no even numbers in this list"
  return total

/-- The even items and the others, each in order. -/
def partitionEven (arr : Value) : Except Fault Value := do
  let xs ← arr.items
  let flags ← xs.mapM Value.isEven
  let tagged := xs.zip flags
  return .list [.list (tagged.filter (·.2) |>.map (·.1)), .list (tagged.filter (!·.2) |>.map (·.1))]

end Kata.Drill
