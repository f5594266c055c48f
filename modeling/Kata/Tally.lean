import Kata.Prelude

/-! Tallies of the items of a sequence in order of first appearance, with their most common list
and text. -/

namespace Kata

/-- Counts of items, in order of first appearance. -/
structure Tally (α : Type) where
  entries : List (α × Nat)
deriving Repr

namespace Tally

variable {α : Type}

def empty : Tally α := ⟨[]⟩

def add [BEq α] (t : Tally α) (x : α) : Tally α :=
  if t.entries.any (·.1 == x) then
    ⟨t.entries.map fun (y, n) => if y == x then (y, n + 1) else (y, n)⟩
  else ⟨t.entries ++ [(x, 1)]⟩

def ofList [BEq α] (xs : List α) : Tally α := xs.foldl add empty

/-- The entries from the largest count down; equal counts keep their order of first appearance. -/
def mostCommon (t : Tally α) : List (α × Nat) :=
  t.entries.mergeSort fun a b => decide (a.2 ≥ b.2)

def elements (t : Tally α) : List α := t.entries.flatMap fun (x, n) => List.replicate n x

def text (key : α → String) (t : Tally α) : String :=
  if t.entries.isEmpty then "Counter()"
  else
    let entries := t.mostCommon.map fun (x, n) => key x ++ ": " ++ toString n
    "Counter(\x7b" ++ ", ".intercalate entries ++ "\x7d)"

end Tally

end Kata
