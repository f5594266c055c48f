import Kata.Binary64.Basic

/-! The binary64 number nearest to a signed ratio, ties going to the even significand. -/

namespace Kata.Binary64

def scaleRatio (num den : Nat) (k : Int) : Nat × Nat :=
  if 0 ≤ k then (num, den * 2 ^ k.toNat) else (num * 2 ^ (-k).toNat, den)

def ratioExponent (num den : Nat) : Int :=
  let k : Int := (num.log2 : Int) - (den.log2 : Int) - 52
  let (n, d) := scaleRatio num den k
  if n / d < 2 ^ 52 then k - 1 else k

def roundedSignificand (num den : Nat) : Nat × Int :=
  let k := max (ratioExponent num den) (-1074)
  let (n, d) := scaleRatio num den k
  let q := n / d
  let r := n % d
  let up := 2 * r > d || (2 * r == d && q % 2 == 1)
  let q' := if up then q + 1 else q
  if q' = 2 ^ 53 then (2 ^ 52, k + 1) else (q', k)

/-- The binary64 number nearest to `±num / den`, ties to even; `den = 0` counts as `1`. -/
def ofRatio (neg : Bool) (num den : Nat) : Binary64 :=
  if num = 0 then signedZero neg
  else
    let den := if den = 0 then 1 else den
    let (q, k) := roundedSignificand num den
    if k > 971 then signedInf neg
    else if q < 2 ^ 52 then ofFields neg 0 q
    else ofFields neg (k + 1075).toNat (q - 2 ^ 52)

def bitLength (n : Nat) : Nat :=
  if h : n < 2 ^ 64 then (if n = 0 then 0 else n.log2 + 1)
  else 64 + bitLength (n >>> 64)
termination_by n
decreasing_by
  rw [Nat.shiftRight_eq_div_pow]
  exact Nat.div_lt_self (by omega) (by decide)

def ofDyadic (neg : Bool) (m : Nat) (e : Int) : Binary64 :=
  if m = 0 then signedZero neg
  else
    let k := max (e + bitLength m - 53) (-1074)
    let (q, k) :=
      if k ≤ e then (m <<< (e - k).toNat, k)
      else
        let s := (k - e).toNat
        let q := m >>> s
        let r := m - (q <<< s)
        let half := 1 <<< (s - 1)
        let q := if r > half || (r == half && q % 2 == 1) then q + 1 else q
        if q = 2 ^ 53 then (2 ^ 52, k + 1) else (q, k)
    if k > 971 then signedInf neg
    else if q < 2 ^ 52 then ofFields neg 0 q
    else ofFields neg (k + 1075).toNat (q - 2 ^ 52)

def ofInt (n : Int) : Binary64 := ofDyadic (n < 0) n.natAbs 0

def ofRat (q : Rat) : Binary64 := ofRatio (q.num < 0) q.num.natAbs q.den

end Kata.Binary64
