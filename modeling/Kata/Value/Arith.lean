import Kata.Value.Basic
import Kata.Binary64.Arith
import Kata.Value.Format

/-! Sums and products of values along the numeric tower. -/

namespace Kata

namespace Value

def intToBinary (n : Int) : Except Fault Binary64 :=
  let x := Binary64.ofInt n
  if x.isInf then .error .intTooLargeForFloat else .ok x

def binaryPair? (a b : Value) : Option (Except Fault (Binary64 × Binary64)) :=
  match a, b with
  | .float x, .float y => some (.ok (x, y))
  | .float x, v => v.asInt?.map fun n => (intToBinary n).map fun y => (x, y)
  | v, .float y => v.asInt?.map fun n => (intToBinary n).map fun x => (x, y)
  | _, _ => Option.none

def repeatSeq (seq : Value) (count : Value) : Except Fault Value :=
  match count.asInt? with
  | Option.none => .error (.repeatByNonInt count.typeName)
  | some n =>
    if n > indexMax ∨ n < -indexMax - 1 then .error (.indexTooWide count.typeName)
    else
      let k := n.toNat
      match seq with
      | .str s =>
        if k = 0 ∨ s.isEmpty then .ok (.str "")
        else if (s.length : Int) > indexMax / k then .error .textTooLong
        else if s.length * k > sizeLimit then .error .outOfMemory
        else .ok (.str (String.join (List.replicate k s)))
      | .list items =>
        if k = 0 ∨ items.isEmpty then .ok (.list [])
        else if items.length * k > sizeLimit then .error .outOfMemory
        else .ok (.list (List.flatten (List.replicate k items)))
      | _ => .ok seq

def isSequence : Value → Bool
  | .str _ | .list _ => true
  | _ => false

/-- The product `a * b`. -/
def mul (a b : Value) : Except Fault Value :=
  match binaryPair? a b with
  | some pair => pair.map fun (x, y) => .float (x.mul y)
  | Option.none =>
    match a.asInt?, b.asInt? with
    | some m, some n => .ok (.int (m * n))
    | _, _ =>
      if a.isSequence then repeatSeq a b
      else if b.isSequence then repeatSeq b a
      else .error (.unsupportedOperands "*" a.typeName b.typeName)

def add (a b : Value) : Except Fault Value :=
  match binaryPair? a b with
  | some pair => pair.map fun (x, y) => .float (x.add y)
  | Option.none =>
    match a.asInt?, b.asInt?, a, b with
    | some m, some n, _, _ => .ok (.int (m + n))
    | _, _, .str s, .str t => .ok (.str (s ++ t))
    | _, _, .str _, v => .error (.concatMismatch "str" v.typeName)
    | _, _, .list xs, .list ys => .ok (.list (xs ++ ys))
    | _, _, .list _, v => .error (.concatMismatch "list" v.typeName)
    | _, _, _, _ => .error (.unsupportedOperands "+" a.typeName b.typeName)

def binaryIsEven (x : Binary64) : Bool :=
  match x.shape with
  | .finite _ m e => m = 0 || (if 0 < e then true else m % 2 ^ (1 - e).toNat == 0)
  | _ => false

def isEven (v : Value) : Except Fault Bool :=
  match v with
  | .bool b => .ok !b
  | .int n => .ok (n % 2 == 0)
  | .float x => .ok (binaryIsEven x)
  | .str s =>
    match Format.faultWithInt? s with
    | some f => .error f
    | Option.none => .ok false
  | _ => .error (.unsupportedOperands "%" v.typeName "int")

end Value

end Kata
