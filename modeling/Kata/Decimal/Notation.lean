import Kata.Decimal.Shortest
import Kata.Binary64.Basic

/-! The written form of a binary64 number: its shortest digits laid out by a notation. -/

namespace Kata.Decimal

/-- The choices of a number format. -/
structure Notation where
  /-- Leading decimal exponents from `plainFrom` up to, not including, `plainUntil` are written
  positionally. -/
  plainFrom : Int
  plainUntil : Int
  /-- An integral positional number ends in `.0`. -/
  pointZero : Bool
  /-- Least number of exponent digits. -/
  expDigits : Nat
  /-- A nonnegative exponent carries a plus sign. -/
  expPlus : Bool
  nanText : String
  infText : String

def Notation.float : Notation where
  plainFrom := -4
  plainUntil := 16
  pointZero := true
  expDigits := 2
  expPlus := true
  nanText := "nan"
  infText := "inf"

def digitChars (n : Nat) : List Char := Nat.toDigits 10 n

def positional (pointZero : Bool) (ds : List Char) (point : Int) : List Char :=
  if point ≤ 0 then '0' :: '.' :: List.replicate (-point).toNat '0' ++ ds
  else if point < ds.length then ds.take point.toNat ++ '.' :: ds.drop point.toNat
  else ds ++ List.replicate (point.toNat - ds.length) '0' ++ (if pointZero then ['.', '0'] else [])

def scientific (n : Notation) (ds : List Char) (lead : Int) : List Char :=
  let mantissa := match ds with
    | [] => ['0']
    | [d] => [d]
    | d :: rest => d :: '.' :: rest
  let sign := if lead < 0 then ['-'] else if n.expPlus then ['+'] else []
  let e := digitChars lead.natAbs
  mantissa ++ 'e' :: sign ++ List.replicate (n.expDigits - e.length) '0' ++ e

def Notation.layout (n : Notation) (d : Dec) : List Char :=
  let ds := digitChars d.digits
  let point : Int := ds.length + d.exp
  let lead := point - 1
  if n.plainFrom ≤ lead ∧ lead < n.plainUntil then positional n.pointZero ds point
  else scientific n ds lead

def Notation.render (n : Notation) (x : Binary64) : String :=
  match x.shape with
  | .nan => n.nanText
  | .inf neg => if neg then "-" ++ n.infText else n.infText
  | .finite neg m e =>
    let body := if m = 0 then positional n.pointZero ['0'] 1 else n.layout (ofBinary m e)
    String.ofList (if neg then '-' :: body else body)

end Kata.Decimal
