import Kata.Lesson.Script

/-! `main SCRIPT [SEED]` prints what a script prints, its generator seeded by SEED. -/

open Kata Kata.Lesson

def seedOfArg (arg : String) : Random.Seed :=
  match arg.toInt? with
  | some n => .int n
  | none => .text arg

def parseArgs : List String → Option (String × Random.Seed)
  | [name] => some (name, .int 0)
  | [name, seed] => some (name, seedOfArg seed)
  | _ => none

/-- Runs a script by name. -/
def main (args : List String) : IO UInt32 := do
  match parseArgs args with
  | none =>
    IO.eprintln "usage: kata SCRIPT [SEED]"
    return 64
  | some (name, seed) =>
    match Script.ofName? name with
    | none =>
      IO.eprintln s!"unknown script {name}"
      return 2
    | some script =>
      match script.output seed with
      | .ok text =>
        IO.print text
        return 0
      | .error f =>
        IO.eprintln f.message
        return 1
