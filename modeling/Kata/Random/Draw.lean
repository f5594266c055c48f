import Kata.Random.Twister
import Kata.Value.Arith
import Kata.Value.Compare

/-! Draws from a generator: uniform numbers, bounded numbers, choices and samples. -/

namespace Kata.Random

/-- A computation that draws from the generator and may fail. -/
abbrev Draw := StateT Twister (Except Fault)

def word : Draw UInt32 := modifyGet Twister.next

def Twister.units (t : Twister) : Nat × Twister :=
  let (a, t) := t.next
  let (b, t) := t.next
  ((a >>> 5).toNat * 2 ^ 26 + (b >>> 6).toNat, t)

def ofUnits (v : Nat) : Binary64 := Binary64.ofDyadic false v (-53)

def Twister.uniform (t : Twister) : Binary64 × Twister :=
  let (v, t) := t.units
  (ofUnits v, t)

def units : Draw Nat := modifyGet Twister.units

def uniform : Draw Binary64 := modifyGet Twister.uniform

def bits (k : Nat) : Draw Nat := do
  if k = 0 then return 0
  if k ≤ 32 then return ((← word) >>> (32 - k).toUInt32).toNat
  let count := (k - 1) / 32 + 1
  (List.range count).foldlM (fun acc i => do
    let left := k - 32 * i
    let w := (← word).toNat
    let w := if left < 32 then w / 2 ^ (32 - left) else w
    pure (acc + w * 2 ^ (32 * i))) 0

/-- Tries at most `fuel` times to draw `k` bits below `n`. Each try succeeds with probability above
one half, so the bound is never reached in practice. -/
def belowTries (n k : Nat) : Nat → Draw Nat
  | 0 => pure 0
  | fuel + 1 => do
    let r ← bits k
    if r < n then pure r else belowTries n k fuel

def below (n : Nat) : Draw Nat :=
  if n = 0 then pure 0 else belowTries n (n.log2 + 1) 1024

def itemAt [Inhabited α] (xs : List α) (i : Nat) : Draw α :=
  match xs[i]? with
  | some x => pure x
  | none => throw (.indexOutOfRange "list")

def choice [Inhabited α] (xs : List α) : Draw α := do
  if xs.isEmpty then throw .emptyChoice
  itemAt xs (← below xs.length)

def choices [Inhabited α] (xs : List α) (k : Nat) : Draw (List α) := do
  let n := Binary64.ofInt xs.length
  (List.range k).mapM fun _ => do
    let x := (← uniform).mul n
    itemAt xs ((x.floorInt?.getD 0).toNat)

def runningTotals : List Value → Except Fault (List Value)
  | [] => pure []
  | w :: ws => do
    let (_, acc) ← ws.foldlM (fun (total, acc) v => do
      let t ← total.add v
      pure (t, acc ++ [t])) (w, [w])
    pure acc

def bisect (less : Nat → Bool) (lo hi : Nat) : Nat :=
  if lo < hi then
    let mid := (lo + hi) / 2
    if less mid then bisect less lo mid else bisect less (mid + 1) hi
  else lo
termination_by hi - lo
decreasing_by all_goals omega

def binaryBelow (x : Binary64) (w : Value) : Bool :=
  match w with
  | .float y => x.compare? y == some .lt
  | _ =>
    match (Value.float x).magnitude?, w.magnitude? with
    | some a, some b => a.compare b == .lt
    | _, _ => false

def scaledBelow (total : Binary64) (c : Value) (v : Nat) : Bool :=
  binaryBelow ((ofUnits v).mul total) c

/-- How many of the `2^53` uniform counts land below a running total once scaled. Rounding is
monotone, so these counts are exactly the ones below the returned cutoff. -/
def cutoff (total : Binary64) (c : Value) : Nat :=
  bisect (fun v => !scaledBelow total c v) 0 (2 ^ 53)

/-- Running totals of weights, ready for drawing: the totals, their sum as a binary64 number, which
must be positive and finite, and the cutoff of each total. -/
structure Wheel where
  totals : Array Value
  total : Binary64
  cutoffs : Array Nat

def Wheel.ofWeights (items : Nat) (weights : List Value) : Except Fault Wheel := do
  let cum ← runningTotals weights
  if cum.length ≠ items then throw .weightsMismatch
  let last ← match cum.getLast? with
    | some c => pure c
    | none => throw (.indexOutOfRange "list")
  let total ← match (← last.add (.float Binary64.zero)) with
    | .float t => pure t
    | _ => throw .weightsNotFinite
  if !binaryBelow Binary64.zero (.float total) && !total.isNaN then throw .weightsNotPositive
  if total.isNaN || total.isInf then throw .weightsNotFinite
  pure ⟨cum.toArray, total, (cum.map (cutoff total)).toArray⟩

def Wheel.pick (w : Wheel) (u : Binary64) : Nat :=
  let x := u.mul w.total
  bisect (fun i => binaryBelow x (w.totals.getD i .none)) 0 (w.totals.size - 1)

def Wheel.pickUnits (w : Wheel) (v : Nat) : Nat :=
  bisect (fun i => v < w.cutoffs.getD i 0) 0 (w.cutoffs.size - 1)

def Wheel.spin [Inhabited α] (w : Wheel) (xs : List α) (k : Nat) : Draw (List α) :=
  (List.range k).mapM fun _ => do
    itemAt xs (w.pickUnits (← units))

def weightedChoices [Inhabited α] (xs : List α) (weights : List Value) (k : Nat) :
    Draw (List α) := do
  (← Wheel.ofWeights xs.length weights).spin xs k

def ceilLog4 (m : Nat) : Nat → Nat
  | 0 => 0
  | fuel + 1 => if m ≤ 1 then 0 else ceilLog4 ((m + 3) / 4) fuel + 1

def poolLimit (k : Nat) : Nat := 21 + (if k > 5 then 4 ^ ceilLog4 (3 * k) (3 * k) else 0)

def poolDraw [Inhabited α] (n : Nat) (state : Array α × List α) (i : Nat) :
    Draw (Array α × List α) := do
  let (pool, taken) := state
  let j ← below (n - i)
  let x := pool.getD j default
  pure (pool.setIfInBounds j (pool.getD (n - i - 1) default), taken ++ [x])

/-- `k` items without replacement. Small populations are drawn from a pool; large ones by drawing
positions until an unused one comes. -/
def sample [Inhabited α] (xs : List α) (k : Nat) : Draw (List α) := do
  let n := xs.length
  if k > n then throw .sampleTooLarge
  if n ≤ poolLimit k then
    let (_, taken) ← (List.range k).foldlM (poolDraw n) (xs.toArray, [])
    pure taken
  else
    let (_, taken) ← (List.range k).foldlM (fun (used, taken) _ => do
      let j ← freshPosition used 1024
      pure (j :: used, taken ++ [xs.getD j default])) (([] : List Nat), [])
    pure taken
where
  /-- Draws positions below the population size until one not used yet comes. -/
  freshPosition (used : List Nat) : Nat → Draw Nat
    | 0 => pure 0
    | fuel + 1 => do
      let j ← below xs.length
      if used.contains j then freshPosition used fuel else pure j

end Kata.Random
