import Kata.Prelude

/-! The 32-bit Mersenne twister MT19937. -/

namespace Kata.Random

/-- The generator state: 624 words and the position of the next one. -/
structure Twister where
  state : Array UInt32
  index : Nat

namespace Twister

def size : Nat := 624

def shift : Nat := 397

def spread (seed : UInt32) : Array UInt32 :=
  (List.range (size - 1)).foldl (fun mt i =>
    let prev := mt.getD i 0
    mt.push ((1812433253 : UInt32) * (prev ^^^ (prev >>> 30)) + (i + 1).toUInt32)) #[seed]

def mixKey (key : List UInt32) (mt : Array UInt32) : Array UInt32 × Nat :=
  let keyArr := key.toArray
  let steps := max size keyArr.size
  let (mt, i, _) := (List.range steps).foldl (fun (mt, i, j) _ =>
    let prev := mt.getD (i - 1) 0
    let v := (mt.getD i 0 ^^^ ((prev ^^^ (prev >>> 30)) * 1664525)) + keyArr.getD j 0 + j.toUInt32
    let mt := mt.setIfInBounds i v
    let (mt, i) :=
      if i + 1 ≥ size then (mt.setIfInBounds 0 (mt.getD (size - 1) 0), 1) else (mt, i + 1)
    let j := if j + 1 ≥ keyArr.size then 0 else j + 1
    (mt, i, j)) (mt, 1, 0)
  (mt, i)

def scramble (mt : Array UInt32) (i : Nat) : Array UInt32 :=
  let (mt, _) := (List.range (size - 1)).foldl (fun (mt, i) _ =>
    let prev := mt.getD (i - 1) 0
    let v := (mt.getD i 0 ^^^ ((prev ^^^ (prev >>> 30)) * 1566083941)) - i.toUInt32
    let mt := mt.setIfInBounds i v
    if i + 1 ≥ size then (mt.setIfInBounds 0 (mt.getD (size - 1) 0), 1) else (mt, i + 1)) (mt, i)
  mt

def ofKey (key : List UInt32) : Twister :=
  let (mt, i) := mixKey key (spread 19650218)
  -- the top bit of the first word is set so that the state is never all zero
  ⟨(scramble mt i).setIfInBounds 0 0x80000000, size⟩

def twist (mt : Array UInt32) : Array UInt32 :=
  (List.range size).foldl (fun mt k =>
    let y := (mt.getD k 0 &&& 0x80000000) ||| (mt.getD ((k + 1) % size) 0 &&& 0x7fffffff)
    let mag : UInt32 := if y &&& 1 == 1 then 0x9908b0df else 0
    mt.setIfInBounds k (mt.getD ((k + shift) % size) 0 ^^^ (y >>> 1) ^^^ mag)) mt

def temper (y : UInt32) : UInt32 :=
  let y := y ^^^ (y >>> 11)
  let y := y ^^^ ((y <<< 7) &&& 0x9d2c5680)
  let y := y ^^^ ((y <<< 15) &&& 0xefc60000)
  y ^^^ (y >>> 18)

def next (t : Twister) : UInt32 × Twister :=
  let t := if t.index ≥ size then ⟨twist t.state, 0⟩ else t
  (temper (t.state.getD t.index 0), ⟨t.state, t.index + 1⟩)

end Twister

end Kata.Random
