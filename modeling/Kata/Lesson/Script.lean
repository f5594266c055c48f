import Kata.Lesson.Resampling
import Kata.Play.Games
import Kata.Drill.Letters

/-! What each script prints when it runs on its own. -/

namespace Kata.Lesson

/-- The runnable scripts. -/
inductive Script where
  | exercises
  | resampling
  | typeHints
  | temple
  | simulations
deriving DecidableEq, Repr

def Script.ofName? : String → Option Script
  | "exe" => some .exercises
  | "resampling" => some .resampling
  | "type_hinting" => some .typeHints
  | "jinyong" => some .temple
  | "simulations" => some .simulations
  | _ => none

def affixed (word key part : String) : String :=
  match Drill.combineWords (.str word) (.dict [(.str key, .str part)]) with
  | .ok (.str s) => s
  | _ => ""

def Script.output (seed : Random.Seed) : Script → Except Fault String
  | .exercises => .ok (affixed "hell" "prefix" "no" ++ "\n" ++ affixed "hell" "suffix" "no" ++ "\n")
  | .resampling => .ok printedLesson
  | .typeHints => .ok (toString 10 ++ "\n")
  | .temple => String.join <$> Play.session seed [.templeTheft]
  | .simulations => String.join <$> Play.session seed [.biasedCoin]

end Kata.Lesson
