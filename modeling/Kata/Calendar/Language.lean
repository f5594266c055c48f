import Kata.Unicode.Fold
import Kata.Text.Case
import Std.Data.HashMap

/-! Languages of written dates, described by their date words, and their lexicons. -/

namespace Kata.Calendar

inductive DateOrder where
  | dmy
  | mdy
  | ymd
deriving DecidableEq, Repr

inductive Respelling where
  | word (word image : String)
  | clockWord (word image : String)
  | hourMark
deriving DecidableEq, Repr

/-- The words of a language that dates use. Month and weekday names come in twelve and seven
lists, each with every way of writing that month or day. -/
structure Language where
  code : String
  order : DateOrder
  spaced : Bool := true
  months : List (List String)
  weekdays : List (List String) := []
  am : List String := []
  pm : List String := []
  filler : List String := []
  year : List String := []
  month : List String := []
  week : List String := []
  day : List String := []
  hour : List String := []
  minute : List String := []
  second : List String := []
  respellings : List Respelling := []
deriving Repr

def weekdayKeys : List String :=
  ["monday", "tuesday", "wednesday", "thursday", "friday", "saturday", "sunday"]

def monthKeys : List String :=
  ["january", "february", "march", "april", "may", "june", "july", "august", "september",
    "october", "november", "december"]

def keptMarks : List String := ["+", ":", ".", " ", "-", "/"]

def commonWords : List (String × String) :=
  [("am", "am"), ("pm", "pm"), ("utc", "UTC"), ("gmt", "GMT"), ("z", "Z")]

def Language.entries (l : Language) : List (String × Option String) :=
  let named (keys : List String) (lists : List (List String)) :=
    (keys.zip lists).flatMap fun (key, words) => words.map fun w => (Text.lowerString w, some key)
  let units :=
    [("year", l.year), ("month", l.month), ("week", l.week), ("day", l.day), ("hour", l.hour),
      ("minute", l.minute), ("second", l.second), ("am", l.am), ("pm", l.pm)]
  l.filler.map (fun w => (Text.lowerString w, none)) ++ named weekdayKeys l.weekdays ++
    named monthKeys l.months ++ units.flatMap (fun (key, words) => named [key] [words]) ++
    keptMarks.map (fun m => (m, some m)) ++ commonWords.map (fun (w, m) => (w, some m))

/-- The words of a lexicon and what each stands for: an English word, or nothing for a filler. -/
structure Lexicon where
  meanings : Std.HashMap String (Option String)
  words : List (List Char)
  spaced : Bool

def Language.lexicon (l : Language) : Lexicon :=
  let entries := l.entries
  let raw : Std.HashMap String (Option String) :=
    entries.foldl (fun m (w, v) => m.insert w v) {}
  let order := (entries.map Prod.fst).eraseDups
  let fillers := l.filler.map Text.lowerString
  let step (acc : Std.HashMap String (Option String) × List String) (w : String) :=
    let (m, late) := acc
    let f := Unicode.fold w
    if w ≠ f && raw.contains f then (m, if w ∈ fillers then late ++ [w] else late)
    else (m.insert f (raw.getD w none), late)
  let (folded, late) := order.foldl step ({}, [])
  let folded := late.foldl (fun m w => m.insert (Unicode.fold w) (raw.getD w none)) folded
  let words := (order.map Unicode.fold).eraseDups ++ ["t"]
  ⟨folded, (words.mergeSort fun a b => a.length ≥ b.length).map String.toList, l.spaced⟩

def Lexicon.knows (x : Lexicon) (w : String) : Bool := w == "t" || x.meanings.contains w

def Lexicon.meaning (x : Lexicon) (w : String) : Option String :=
  if w == "t" then none else (x.meanings.get? w).join

end Kata.Calendar
