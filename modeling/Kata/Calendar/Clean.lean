import Kata.Unicode.Word
import Kata.Unicode.Digit

/-! Cleaning the text of a written date before it is read. -/

namespace Kata.Calendar

open Kata.Unicode

def blankMarks : List Char :=
  ['\t', '\n', '\r', '»', '‎', '·', '‏', 'َ', 'ُ']

def apostrophe : Char := Char.ofNat 39

def apostropheLike : List Char :=
  ['’', 'ʼ', 'ʻ', '՚', 'ꞌ', '′', '‵', 'ʹ', '＇']

def blankOut : List Char → List Char
  | [] => []
  | ',' :: tl@(b :: 'в' :: rest) =>
    if isBlank b && !(rest.head?.any isWordChar) then ' ' :: blankOut rest
    else ',' :: blankOut tl
  | c :: rest => (if c ∈ blankMarks then ' ' else c) :: blankOut rest

def dropYearMark : List Char → List Char
  | [] => []
  | c :: tl@(g :: '.' :: rest) =>
    if (g = 'г' || g = 'Г') && (!isWordChar c || isDecimal c) then c :: ' ' :: dropYearMark rest
    else c :: dropYearMark tl
  | c :: rest => c :: dropYearMark rest

def squeeze (inBlank : Bool) : List Char → List Char
  | [] => []
  | c :: rest =>
    if isBlank c then
      if inBlank then squeeze true rest else ' ' :: squeeze true rest
    else c :: squeeze false rest

def dropPoints (before : Option Char) : List Char → List Char
  | [] => []
  | c :: rest =>
    if c = '.' && before.any (fun b => !isDecimal b) then dropPoints (some c) rest
    else c :: dropPoints (some c) rest

def afterLabel : List Char → Option (List Char)
  | [] => none
  | 'o' :: tl@('n' :: ':' :: b :: rest) =>
    if isBlank b then some (rest.dropWhile isBlank) else afterLabel tl
  | _ :: rest => afterLabel rest

def dropEndColons (cs : List Char) : List Char :=
  let lead := cs.takeWhile isBlank
  match cs.drop lead.length with
  | [] => cs
  | c :: rest => lead ++ c :: (rest.reverse.dropWhile (· = ':')).reverse

def trimBlanks (cs : List Char) : List Char :=
  ((cs.dropWhile isBlank).reverse.dropWhile isBlank).reverse

/-- The cleaned text of a written date. -/
def clean (s : String) : String :=
  let cs := squeeze false (dropYearMark (blankOut s.toList))
  let cs :=
    match cs with
    | ' ' :: c :: rest@(_ :: _) =>
      if c ≠ ' ' && rest.getLast? = some ' ' then c :: rest.dropLast else cs
    | _ => cs
  let cs := dropPoints none cs
  let cs := (afterLabel cs).getD cs
  let cs := dropEndColons cs
  let cs := cs.map fun c => if c ∈ apostropheLike then apostrophe else c
  String.ofList (trimBlanks cs)

end Kata.Calendar
