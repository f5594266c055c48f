import Kata.Value.Compare

/-! Iterating and indexing values. -/

namespace Kata

namespace Value

/-- The items an iteration over the value visits. -/
def items : Value → Except Fault (List Value)
  | .list xs => .ok xs
  | .str s => .ok (s.toList.map ofChar)
  | .dict entries => .ok (entries.map (·.1))
  | v => .error (.notIterable v.typeName)

def position? (n : Nat) (i : Int) : Option Nat :=
  if i < 0 then (if (-i).toNat ≤ n then some (n - (-i).toNat) else Option.none)
  else if i.toNat < n then some i.toNat else Option.none

def index (v : Value) (i : Int) : Except Fault Value :=
  match v with
  | .list xs =>
    match position? xs.length i with
    | some k => match xs[k]? with
      | some x => .ok x
      | Option.none => .error (.indexOutOfRange "list")
    | Option.none => .error (.indexOutOfRange "list")
  | .str s =>
    match position? s.length i with
    | some k => match s.toList[k]? with
      | some c => .ok (ofChar c)
      | Option.none => .error (.indexOutOfRange "string")
    | Option.none => .error (.indexOutOfRange "string")
  | .dict entries =>
    match lookup? entries (.int i) with
    | some x => .ok x
    | Option.none => .error (.missingKey (toString i))
  | v => .error (.notSubscriptable v.typeName)

def dropFront (v : Value) (n : Nat) : Except Fault Value :=
  match v with
  | .list xs => .ok (.list (xs.drop n))
  | .str s => .ok (.str (String.ofList (s.toList.drop n)))
  | .dict _ => .error (.unhashable "slice")
  | v => .error (.notSubscriptable v.typeName)

def hashable : Value → Bool
  | .list _ | .dict _ => false
  | _ => true

end Value

end Kata
