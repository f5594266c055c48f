import Kata.Random.Twister
import Kata.Hash.Sha512

/-! Seeding a generator from an integer or a text. -/

namespace Kata.Random

/-- A seed. -/
inductive Seed where
  | int (n : Int)
  | text (s : String)
deriving DecidableEq, Repr

def words : Nat → Nat → List UInt32
  | 0, _ => []
  | fuel + 1, n => if n = 0 then [] else (n % 2 ^ 32).toUInt32 :: words fuel (n / 2 ^ 32)

def keyOf (n : Nat) : List UInt32 :=
  match words (n.log2 / 32 + 1) n with
  | [] => [0]
  | ws => ws

def ofBytes (bs : List UInt8) : Nat := bs.foldl (fun acc b => acc * 256 + b.toNat) 0

def Seed.toNat : Seed → Nat
  | .int n => n.natAbs
  | .text s =>
    let bytes := s.toUTF8.toList
    ofBytes (bytes ++ Sha512.digest bytes)

def Seed.generator (s : Seed) : Twister := Twister.ofKey (keyOf s.toNat)

end Kata.Random
