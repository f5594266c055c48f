import Kata.Calendar.Language
import Kata.Unicode.Word
import Kata.Unicode.Digit
import Kata.Unicode.Blank

/-! Glossing a written date in the English words of a language's lexicon. -/

namespace Kata.Calendar

open Kata.Unicode

def isWordEdge (c : Option Char) : Bool := c.all fun c => !isWordChar c || c == '_'

def startsWithWord (w cs : List Char) : Bool :=
  w ≠ [] && w.isPrefixOf cs && isWordEdge (cs.drop w.length).head?

def replaceWord (w image : List Char) : Nat → Option Char → List Char → List Char
  | 0, _, cs => cs
  | _, _, [] => []
  | fuel + 1, before, c :: rest =>
    if isWordEdge before && startsWithWord w (c :: rest) then
      image ++ replaceWord w image fuel w.getLast? ((c :: rest).drop w.length)
    else c :: replaceWord w image fuel (some c) rest

def afterTwelve : List Char → Option (List Char)
  | '1' :: '2' :: b :: rest => if isBlank b then some (rest.dropWhile isBlank) else none
  | _ => none

def replaceClockWord (w image : List Char) : Nat → Option Char → List Char → List Char
  | 0, _, cs => cs
  | _, _, [] => []
  | fuel + 1, before, c :: rest =>
    if !isWordEdge before then c :: replaceClockWord w image fuel (some c) rest
    else
      match (afterTwelve (c :: rest)).filter (startsWithWord w) with
      | some after => image ++ replaceClockWord w image fuel w.getLast? (after.drop w.length)
      | none =>
        if startsWithWord w (c :: rest) then
          image ++ replaceClockWord w image fuel w.getLast? ((c :: rest).drop w.length)
        else c :: replaceClockWord w image fuel (some c) rest

def replaceHourMark : Nat → Option Char → List Char → List Char
  | 0, _, cs => cs
  | _, _, [] => []
  | fuel + 1, before, c :: rest =>
    if !(isWordEdge before && isDecimal c) then c :: replaceHourMark fuel (some c) rest
    else
      let hours := (c :: rest).takeWhile isDecimal
      let after := (c :: rest).drop hours.length
      let skipHours := hours ++ replaceHourMark fuel hours.getLast? after
      match after with
      | 'h' :: d :: more =>
        if !isDecimal d then skipHours
        else
          let minutes := (d :: more).takeWhile isDecimal
          let tail := (d :: more).drop minutes.length
          let (tail, last) :=
            match tail with
            | 'm' :: t => (t, some 'm')
            | t => (t, minutes.getLast?)
          if isWordEdge tail.head? then
            hours ++ ':' :: minutes ++ replaceHourMark fuel last tail
          else skipHours
      | _ => skipHours

def Respelling.apply (r : Respelling) (cs : List Char) : List Char :=
  match r with
  | .word w image => replaceWord (fold w).toList image.toList (cs.length + 1) none cs
  | .clockWord w image => replaceClockWord w.toList image.toList (cs.length + 1) none cs
  | .hourMark => replaceHourMark (cs.length + 1) none cs

def Language.prepare (l : Language) (s : String) : List Char :=
  let cs := (fold (String.ofList (s.toList.map asciiDigit))).toList
  l.respellings.foldl (fun cs r => Text.lower (r.apply cs)) (Text.lower cs)

def isCaptured (cs : List Char) : Bool :=
  keptMarks.contains (String.ofList cs) || cs.any fun c => isWordChar c && c != '_'

def digitRuns : Nat → List Char → List (List Char)
  | 0, _ => []
  | _, [] => []
  | fuel + 1, c :: rest =>
    let run := (c :: rest).takeWhile fun x => isDecimal x == isDecimal c
    run :: digitRuns fuel ((c :: rest).drop run.length)

def splitNumbers (cs : List Char) : List (List Char) :=
  (digitRuns (cs.length + 1) cs).filter isCaptured

def isSeparator (c : Char) : Bool := !isWordChar c || c == '_' || isDecimal c

def Lexicon.wordAt (x : Lexicon) (cs : List Char) : Option (List Char) :=
  x.words.find? fun w =>
    w.isPrefixOf cs && (!x.spaced || ((cs.drop w.length).head?.all isSeparator))

def Lexicon.findWord (x : Lexicon) (before : Option Char) : List Char → Option (Nat × List Char)
  | [] => none
  | c :: rest =>
    let here := if x.spaced && !before.all isSeparator then none else x.wordAt (c :: rest)
    match here with
    | some w => some (0, w)
    | none => (x.findWord (some c) rest).map fun (i, w) => (i + 1, w)

def Lexicon.split (x : Lexicon) : Nat → List Char → List (List Char)
  | 0, _ => []
  | _, [] => []
  | fuel + 1, cs =>
    match x.findWord none cs with
    | none => if isCaptured cs then splitNumbers cs else []
    | some (i, w) =>
      let before := cs.take i
      let front := if before ≠ [] && isCaptured before then splitNumbers before else []
      let known := if isCaptured w then [w] else []
      front ++ known ++ x.split fuel (cs.drop (i + w.length))

def Lexicon.pieces (x : Lexicon) (l : Language) (s : String) : List String :=
  let cs := l.prepare s
  (x.split (cs.length + 1) cs).map String.ofList

def isNumber (w : String) : Bool := !w.isEmpty && w.all isDecimal

def Lexicon.covers (x : Lexicon) (l : Language) (s : String) : Bool :=
  (x.pieces l s).all fun w => x.knows w || isNumber w

def joinWords : List String → String
  | [] => ""
  | w :: ws =>
    (ws.foldl (fun (acc, prev) b =>
      let gap := if keptMarks.contains prev || keptMarks.contains b then "" else " "
      (acc ++ gap ++ b, b)) (w, w)).1

/-- The text of a date in English words: known words by their meaning, filler words dropped,
other pieces as they are. -/
def Lexicon.gloss (x : Lexicon) (l : Language) (s : String) : String :=
  joinWords <| (x.pieces l s).filterMap fun w =>
    let low := Text.lowerString w
    if x.knows low then x.meaning low else some w

end Kata.Calendar
