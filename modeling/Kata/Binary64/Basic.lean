import Kata.Prelude

/-! IEEE 754 doubles held as bit patterns and read through their shape: a NaN, a signed infinity or
a finite `(-1)^neg * m * 2^e`. -/

namespace Kata

/-- An IEEE 754 binary64 number, held as its bit pattern. -/
structure Binary64 where
  bits : UInt64
deriving DecidableEq, Repr, Inhabited

namespace Binary64

/-- What a bit pattern stands for: a NaN, a signed infinity, or `(-1)^neg * m * 2^e`. -/
inductive Shape where
  | nan
  | inf (neg : Bool)
  | finite (neg : Bool) (m : Nat) (e : Int)
deriving DecidableEq, Repr

def signBit (x : Binary64) : Bool := x.bits >>> 63 == 1

def exponentField (x : Binary64) : Nat := ((x.bits >>> 52) &&& 0x7FF).toNat

def fractionField (x : Binary64) : Nat := (x.bits &&& 0xFFFFFFFFFFFFF).toNat

def hiddenBit : Nat := 4503599627370496

/-- The meaning of a bit pattern. Subnormals have exponent `-1074`, normals carry the hidden bit. -/
def shape (x : Binary64) : Shape :=
  let e := x.exponentField
  let f := x.fractionField
  let neg := x.signBit
  if e = 0x7FF then
    if f = 0 then .inf neg else .nan
  else if e = 0 then .finite neg f (-1074)
  else .finite neg (hiddenBit + f) ((e : Int) - 1075)

def zero : Binary64 := ⟨0⟩

def negZero : Binary64 := ⟨0x8000000000000000⟩

def inf : Binary64 := ⟨0x7FF0000000000000⟩

def negInf : Binary64 := ⟨0xFFF0000000000000⟩

def nan : Binary64 := ⟨0x7FF8000000000000⟩

def signedZero (neg : Bool) : Binary64 := if neg then negZero else zero

def signedInf (neg : Bool) : Binary64 := if neg then negInf else inf

def isNaN (x : Binary64) : Bool :=
  match x.shape with
  | .nan => true
  | _ => false

def isInf (x : Binary64) : Bool :=
  match x.shape with
  | .inf _ => true
  | _ => false

def isZero (x : Binary64) : Bool :=
  match x.shape with
  | .finite _ 0 _ => true
  | _ => false

def finiteValue (neg : Bool) (m : Nat) (e : Int) : Rat :=
  let mag : Rat :=
    if 0 ≤ e then ((m * 2 ^ e.toNat : Nat) : Rat) else (m : Rat) / ((2 ^ (-e).toNat : Nat) : Rat)
  if neg then -mag else mag

def toRat? (x : Binary64) : Option Rat :=
  match x.shape with
  | .finite neg m e => some (finiteValue neg m e)
  | _ => none

def ofFields (neg : Bool) (biased fraction : Nat) : Binary64 :=
  ⟨((if neg then 1 else 0 : UInt64) <<< 63) ||| ((biased.toUInt64 &&& 0x7FF) <<< 52) |||
    (fraction.toUInt64 &&& 0xFFFFFFFFFFFFF)⟩

end Binary64

end Kata
