import Kata.Tally
import Kata.Text.Quote
import Kata.Text.Fields

/-! The fixed texts of a lesson on string formatting and tallies. -/

namespace Kata.Lesson

def listLiteral (items : List String) : String :=
  "[" ++ ", ".intercalate (items.map Text.quoteString) ++ "]"

/-- A list of strings pretty-printed for 80 columns. -/
def prettyList (items : List String) : String :=
  let flat := listLiteral items
  if flat.length ≤ 80 then flat
  else "[" ++ ",\n ".intercalate (items.map Text.quoteString) ++ "]"

def formattedSentences : List String :=
  let answer := toString 10
  let tomorrow := toString 11
  ["The answer is " ++ answer ++ " today",
   "The answer is " ++ answer ++ " today",
   "The answer is " ++ answer ++ " today and " ++ tomorrow ++ " tomorrow",
   "The answer is " ++ answer ++ " today"]

def colours : String := "red green red blue red blue green"

def pairLiteral (p : String × Nat) : String :=
  "(" ++ Text.quoteString p.1 ++ ", " ++ toString p.2 ++ ")"

def pairsLiteral (ps : List (String × Nat)) : String :=
  "[" ++ ", ".intercalate (ps.map pairLiteral) ++ "]"

def tallyPages : List String :=
  let words := (Text.fields colours.toList).map String.ofList
  let t := Tally.ofList words
  let nl := "\n"
  let mostCommon :=
    "@ Most Common" ++ nl ++
    ">>> c = Counter(\"" ++ colours ++ "\".split())" ++ nl ++
    t.text Text.quoteString ++ nl ++
    ">>> c.most_common(1)" ++ nl ++
    pairsLiteral (t.mostCommon.take 1) ++ nl ++
    ">>> c.most_common(2)" ++ nl ++
    pairsLiteral (t.mostCommon.take 2) ++ nl
  let elements :=
    "@ Elements" ++
    ">>> list(c.elements())" ++ nl ++
    listLiteral t.elements ++ nl ++
    ">>> list(c)" ++ nl ++
    listLiteral (t.entries.map (·.1)) ++ nl ++
    ">>> list(c.values())" ++ nl ++
    "[" ++ ", ".intercalate (t.entries.map fun e => toString e.2) ++ "]" ++ nl ++
    ">>> list(c.items())" ++ nl ++
    pairsLiteral t.entries ++ nl
  [mostCommon, elements]

def printedLesson : String :=
  let gap := "\n\n\n" ++ "\n"
  gap ++ prettyList formattedSentences ++ "\n" ++ gap ++
    String.join (tallyPages.map (· ++ "\n"))

end Kata.Lesson
