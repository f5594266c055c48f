import Kata.Unicode.Lowercase
import Kata.Unicode.Uppercase
import Kata.Unicode.Cased

/-! Lowering and uppering text by the full case mappings, a capital sigma by its context. -/

namespace Kata.Text

open Unicode

def firstUnignorable (cs : List Char) : Option Char :=
  (cs.dropWhile isCaseIgnorable).head?

def endsWord (before after : List Char) : Bool :=
  (match firstUnignorable before with
   | some c => isCased c
   | none => false) &&
  (match firstUnignorable after with
   | some c => !isCased c
   | none => true)

/-- Lowering with the characters already passed, nearest first. -/
def lowerFrom (before : List Char) : List Char → List Char
  | [] => []
  | c :: rest =>
    let image := if c = 'Σ' then [if endsWord before rest then 'ς' else 'σ'] else lowercase.apply c
    image ++ lowerFrom (c :: before) rest

def lower (cs : List Char) : List Char := lowerFrom [] cs

def upper (cs : List Char) : List Char := cs.flatMap uppercase.apply

def lowerString (s : String) : String := String.ofList (lower s.toList)

def upperString (s : String) : String := String.ofList (upper s.toList)

end Kata.Text
