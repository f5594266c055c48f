import Kata.Value.Arith
import Kata.Value.Access
import Kata.Text.Case
import Kata.Text.Fields
import Kata.Tally

/-! Exercises on letters and words: letter counts, palindromes, capitals and joining. -/

namespace Kata.Drill

open Value

def lowered (v : Value) : Except Fault (List Char) :=
  match v with
  | .str s => .ok (Text.lower s.toList)
  | v => .error (.noAttribute v.typeName "lower")

def uppered (v : Value) : Except Fault Value :=
  match v with
  | .str s => .ok (.str (Text.upperString s))
  | v => .error (.noAttribute v.typeName "upper")

def words (v : Value) : Except Fault (List (List Char)) :=
  match v with
  | .str s => .ok (Text.fields s.toList)
  | v => .error (.noAttribute v.typeName "split")

/-- How many characters of the lowered text equal the lowered letter. The letter is lowered only
when the lowered text has a character to compare. -/
def letterCount (s letter : Value) : Except Fault Value := do
  let cs ← lowered s
  if cs.isEmpty then return .int 0
  let l ← lowered letter
  return .int (cs.countP fun c => [c] == l)

def letterTally (s : Value) : Except Fault Value := do
  let cs ← lowered s
  return .dict ((Tally.ofList cs).entries.map fun (c, n) => (ofChar c, .int n))

/-- Whether the text without blanks reads the same backwards, once lowered. -/
def isPalindrome (s : Value) : Except Fault Value := do
  let joined := (← words s).flatten
  return .bool (Text.lower joined == Text.lower joined.reverse)

def capitalizeFirst (s : Value) : Except Fault Value := do
  let first ← uppered (← s.index 0)
  first.add (← s.dropFront 1)

def capitalizeWord : List Char → List Char
  | [] => []
  | c :: rest => Text.upper [c] ++ rest

/-- The fields of the text, each with its first character uppered, joined by single spaces. -/
def capitalizeWords (s : Value) : Except Fault Value := do
  let ws ← words s
  return .str (" ".intercalate (ws.map fun w => String.ofList (capitalizeWord w)))

def combineWords (word keywords : Value) : Except Fault Value := do
  let entries ← match keywords with
    | .dict es => pure es
    | v => throw (.spreadNotMapping "spz_exe.combine_words" v.typeName)
  if entries.any fun e => !(e.1 matches .str _) then throw .keywordsNotText
  if entries.any fun e => e.1.equals (.str "word") then
    throw (.duplicateArgument "combine_words" "word")
  let front := (lookup? entries (.str "prefix")).getD (.str "")
  let back := (lookup? entries (.str "suffix")).getD (.str "")
  (← front.add word).add back

end Kata.Drill
