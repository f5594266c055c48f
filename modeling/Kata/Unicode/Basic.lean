import Kata.Prelude

/-! Tables of code point ranges and of case mapping runs. -/

namespace Kata.Unicode

structure CodeRange where
  first : Nat
  last : Nat
deriving DecidableEq, Repr

def inRanges (ranges : List CodeRange) (c : Nat) : Bool :=
  ranges.any fun r => r.first ≤ c && c ≤ r.last

/-- The code points `first, first + stride, …` up to `last` map to themselves plus `shift`. -/
structure CaseRun where
  first : Nat
  last : Nat
  shift : Int
  stride : Nat
deriving DecidableEq, Repr

def CaseRun.image? (r : CaseRun) (c : Nat) : Option Nat :=
  if r.first ≤ c && c ≤ r.last && (c - r.first) % r.stride == 0 then
    some ((c : Int) + r.shift).toNat
  else none

structure Expansion where
  code : Nat
  image : List Nat
deriving DecidableEq, Repr

structure CaseMap where
  expansions : List Expansion
  runs : List CaseRun

def CaseMap.apply (m : CaseMap) (c : Char) : List Char :=
  match m.expansions.find? (·.code == c.toNat) with
  | some e => e.image.map Char.ofNat
  | none =>
    match m.runs.findSome? (·.image? c.toNat) with
    | some d => [Char.ofNat d]
    | none => [c]

end Kata.Unicode
