import Kata.Binary64.Round

/-! Arithmetic and order on binary64 numbers: each operation is its exact result rounded once,
with the special values of IEEE 754. -/

namespace Kata

/-- A signed dyadic rational `±mag * 2^exp`. Zero has both signs. -/
structure Dyadic where
  neg : Bool
  mag : Nat
  exp : Int
deriving DecidableEq, Repr

namespace Dyadic

def sign (a : Dyadic) : Int := if a.mag = 0 then 0 else if a.neg then -1 else 1

def ofInt (n : Int) : Dyadic := ⟨n < 0, n.natAbs, 0⟩

def compare (a b : Dyadic) : Ordering :=
  if a.sign ≠ b.sign then Ord.compare a.sign b.sign
  else if a.sign = 0 then .eq
  else
    let k := min a.exp b.exp
    let c := Ord.compare (a.mag <<< (a.exp - k).toNat) (b.mag <<< (b.exp - k).toNat)
    if a.sign > 0 then c else c.swap

end Dyadic

/-- A dyadic rational or one of the two infinities: the exact value of a number that is not NaN. -/
inductive Extended where
  | negInf
  | fin (d : Dyadic)
  | posInf
deriving DecidableEq, Repr

namespace Extended

def compare : Extended → Extended → Ordering
  | .negInf, .negInf => .eq
  | .negInf, _ => .lt
  | _, .negInf => .gt
  | .posInf, .posInf => .eq
  | .posInf, _ => .gt
  | _, .posInf => .lt
  | .fin a, .fin b => a.compare b

def ofInt (n : Int) : Extended := .fin (Dyadic.ofInt n)

end Extended

namespace Binary64

def toExtended? (x : Binary64) : Option Extended :=
  match x.shape with
  | .nan => none
  | .inf neg => some (if neg then .negInf else .posInf)
  | .finite neg m e => some (.fin ⟨neg, m, e⟩)

def mul (x y : Binary64) : Binary64 :=
  match x.shape, y.shape with
  | .nan, _ => nan
  | _, .nan => nan
  | .inf a, .inf b => signedInf (a != b)
  | .inf a, .finite b m _ => if m = 0 then nan else signedInf (a != b)
  | .finite a m _, .inf b => if m = 0 then nan else signedInf (a != b)
  | .finite a m e, .finite b n f => ofDyadic (a != b) (m * n) (e + f)

def alignedInt (neg : Bool) (m : Nat) (e k : Int) : Int :=
  let mag : Int := (m * 2 ^ (e - k).toNat : Nat)
  if neg then -mag else mag

def add (x y : Binary64) : Binary64 :=
  match x.shape, y.shape with
  | .nan, _ => nan
  | _, .nan => nan
  | .inf a, .inf b => if a = b then signedInf a else nan
  | .inf a, .finite _ _ _ => signedInf a
  | .finite _ _ _, .inf b => signedInf b
  | .finite a m e, .finite b n f =>
    let k := min e f
    let s := alignedInt a m e k + alignedInt b n f k
    if s = 0 then (if m = 0 && n = 0 then signedZero (a && b) else zero)
    else ofDyadic (s < 0) s.natAbs k

def truncInt? (x : Binary64) : Option Int :=
  match x.shape with
  | .finite neg m e =>
    let mag : Nat := if 0 ≤ e then m * 2 ^ e.toNat else m / 2 ^ (-e).toNat
    some (if neg then -(mag : Int) else mag)
  | _ => none

def floorInt? (x : Binary64) : Option Int :=
  match x.shape with
  | .finite neg m e =>
    if 0 ≤ e then some (if neg then -((m * 2 ^ e.toNat : Nat) : Int) else (m * 2 ^ e.toNat : Nat))
    else
      let d := 2 ^ (-e).toNat
      some (if neg then -(((m + d - 1) / d : Nat) : Int) else ((m / d : Nat) : Int))
  | _ => none

def fract (x : Binary64) : Binary64 :=
  match x.shape with
  | .finite neg m e => if 0 ≤ e then signedZero neg else ofDyadic neg (m % 2 ^ (-e).toNat) e
  | .inf neg => signedZero neg
  | .nan => nan

def roundHalfEvenInt? (x : Binary64) : Option Int :=
  match x.shape with
  | .finite neg m e =>
    let mag : Nat :=
      if 0 ≤ e then m * 2 ^ e.toNat
      else
        let d := 2 ^ (-e).toNat
        let q := m / d
        let r := m % d
        if 2 * r > d || (2 * r == d && q % 2 == 1) then q + 1 else q
    some (if neg then -(mag : Int) else mag)
  | _ => none

def orderKey (x : Binary64) : Int :=
  let mag : Int := (x.bits &&& 0x7FFFFFFFFFFFFFFF).toNat
  if x.signBit then -mag else mag

/-- Order of two numbers by exact value; `none` when either is a NaN. -/
def compare? (x y : Binary64) : Option Ordering :=
  if x.isNaN || y.isNaN then none else some (Ord.compare x.orderKey y.orderKey)

end Binary64

end Kata
