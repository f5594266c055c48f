import Kata.Binary64.Basic

/-! The shortest decimal that reads back as a binary64 number, the nearer of two, ties to even. -/

namespace Kata.Decimal

structure Dec where
  digits : Nat
  exp : Int
deriving DecidableEq, Repr

structure Ratio where
  num : Nat
  den : Nat
deriving Repr

def Ratio.ofDyadic (m : Nat) (e : Int) : Ratio :=
  if 0 ≤ e then ⟨m * 2 ^ e.toNat, 1⟩ else ⟨m, 2 ^ (-e).toNat⟩

def cmpDec (d : Nat) (p : Int) (r : Ratio) : Ordering :=
  let lhs := d * 10 ^ p.toNat * r.den
  let rhs := r.num * 10 ^ (-p).toNat
  compare lhs rhs

def floorDiv (r : Ratio) (p : Int) : Nat :=
  (r.num * 10 ^ (-p).toNat) / (r.den * 10 ^ p.toNat)

structure Interval where
  low : Ratio
  high : Ratio
  closed : Bool

def Interval.ofDyadic (m : Nat) (e : Int) (narrow : Bool) : Interval where
  low := Ratio.ofDyadic (if narrow then 4 * m - 1 else 4 * m - 2) (e - 2)
  high := Ratio.ofDyadic (4 * m + 2) (e - 2)
  closed := m % 2 == 0

def Interval.contains (i : Interval) (d : Nat) (p : Int) : Bool :=
  let cl := cmpDec d p i.low
  let ch := cmpDec d p i.high
  (cl == .gt || (i.closed && cl == .eq)) && (ch == .lt || (i.closed && ch == .eq))

def decimalLength (r : Ratio) : Int :=
  let est : Int := (((r.num.log2 : Int) - (r.den.log2 : Int)) * 30103) / 100000
  let fits (k : Int) : Bool := cmpDec 1 k r == .gt && cmpDec 1 (k - 1) r != .gt
  match ([est - 1, est, est + 1, est + 2, est + 3].find? fits) with
  | some k => k
  | none => est + 1

def candidate (v : Ratio) (i : Interval) (p : Int) : Option Dec :=
  let lo := floorDiv v p
  let hi := lo + 1
  match i.contains lo p, i.contains hi p with
  | true, true =>
    match cmpDec (2 * lo + 1) p ⟨2 * v.num, v.den⟩ with
    | .gt => some ⟨lo, p⟩
    | .lt => some ⟨hi, p⟩
    | .eq => some (if lo % 2 == 0 then ⟨lo, p⟩ else ⟨hi, p⟩)
  | true, false => some ⟨lo, p⟩
  | false, true => some ⟨hi, p⟩
  | false, false => none

def Dec.normalize (d : Dec) : Dec :=
  go d.digits d.exp d.digits
where
  go (digits : Nat) (exp : Int) : Nat → Dec
    | 0 => ⟨digits, exp⟩
    | fuel + 1 =>
      if digits ≠ 0 ∧ digits % 10 = 0 then go (digits / 10) (exp + 1) fuel else ⟨digits, exp⟩

/-- The shortest decimal in the rounding interval of the positive value `m * 2^e`. -/
def shortest (m : Nat) (e : Int) (narrow : Bool) : Dec :=
  let v := Ratio.ofDyadic m e
  let i := Interval.ofDyadic m e narrow
  let k := decimalLength v
  let found := (List.range 17).findSome? fun (n : Nat) => candidate v i (k - ((n : Int) + 1))
  match found with
  | some d => d.normalize
  | none => (⟨floorDiv v (k - 17), k - 17⟩ : Dec).normalize

def ofBinary (m : Nat) (e : Int) : Dec :=
  -- the gap below is half as wide when the significand is a power of two above the subnormals
  shortest m e (m == 2 ^ 52 && e > -1074)

end Kata.Decimal
