import Kata.Random.Draw
import Kata.Random.Seed
import Kata.Tally
import Kata.Text.Quote
import Kata.Decimal.Notation

/-! Five games of chance played on one shared generator. -/

namespace Kata.Play

open Kata.Random

/-- The games. -/
inductive Game where
  | rouletteByChoice
  | rouletteWeighted
  | dealCards
  | biasedCoin
  | templeTheft
deriving DecidableEq, Repr

def Game.ofName? : String → Option Game
  | "roulette_wheel_bad" => some .rouletteByChoice
  | "roulette_wheel_good" => some .rouletteWeighted
  | "deal_card" => some .dealCards
  | "bias_coin" => some .biasedCoin
  | "shaoling" => some .templeTheft
  | _ => none

def tallyText (xs : List String) : String := (Tally.ofList xs).text Text.quoteString

def intWeights (ws : List Int) : List Value := ws.map Value.int

def deck : List String := List.replicate 16 "tens" ++ List.replicate 36 "low"

def coinTrials : Nat := 100000

/-- The coin's wheel: heads weighted 0.60 and tails 1.00. -/
def coinWheel : Except Fault Wheel :=
  Wheel.ofWeights 2
    [.float (Binary64.ofRatio false 60 100), .float (Binary64.ofRatio false 100 100)]

def heads (wheel : Wheel) (count : Nat) : Nat → Twister → Nat × Twister
  | 0, t => (count, t)
  | n + 1, t =>
    let (v, t) := t.units
    heads wheel (if wheel.pickUnits v = 0 then count + 1 else count) n t

def coinWins (wheel : Wheel) (wins : Nat) : Nat → Twister → Nat × Twister
  | 0, t => (wins, t)
  | n + 1, t =>
    let (h, t) := heads wheel 0 7 t
    coinWins wheel (if h ≥ 5 then wins + 1 else wins) n t

def Game.play : Game → Draw String
  | .rouletteByChoice => do
    let wheel := List.replicate 18 "red" ++ List.replicate 18 "black" ++ List.replicate 2 "green"
    let _ ← (List.range 6).mapM fun _ => choice wheel
    let _ ← choices wheel 6
    pure ""
  | .rouletteWeighted => do
    let spins ← weightedChoices ["red", "black", "green"] (intWeights [18, 18, 2]) 6
    pure (tallyText spins ++ "\n")
  | .dealCards => do
    let _ ← sample deck 20
    pure ""
  | .biasedCoin => do
    -- the weights are the same in every trial, so their wheel is built once
    let wheel ← coinWheel
    let wins ← modifyGet (coinWins wheel 0 coinTrials)
    pure (Decimal.Notation.float.render (Binary64.ofRatio false wins coinTrials) ++ "\n")
  | .templeTheft => do
    let weights := intWeights [50, 5, 5, 1, 1]
    let _ ← weightedChoices
      ["被发现了", "得到天山大便掌", "得到东北娘们掌", "得到拈花指", "得到易筋经"] weights 1
    let loot ← weightedChoices ["被发现了", "天山大便掌", "东北娘们掌", "拈花指", "易筋经"] weights 6
    pure (tallyText loot ++ "\n")

/-- What each game prints, the games played in order on the generator of the seed. -/
def session (seed : Seed) (games : List Game) : Except Fault (List String) :=
  (games.mapM Game.play).run' seed.generator

end Kata.Play
