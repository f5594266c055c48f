import Kata.Calendar.Directive
import Kata.Calendar.Civil
import Kata.Unicode.Blank

/-! Reading a fully specified date and time from the tokens of its English gloss. -/

namespace Kata.Calendar

open Kata.Unicode

inductive TokenKind where
  | numeral
  | letters
  | other
deriving DecidableEq, Repr

def TokenKind.of (c : Char) : TokenKind :=
  if c.isDigit || c == ':' then .numeral else if c.isAlpha then .letters else .other

structure Token where
  text : String
  kind : TokenKind
deriving DecidableEq, Repr

def kindRuns : Nat → List Char → List (List Char)
  | 0, _ => []
  | _, [] => []
  | fuel + 1, c :: rest =>
    let run := (c :: rest).takeWhile fun x => TokenKind.of x == TokenKind.of c
    run :: kindRuns fuel ((c :: rest).drop run.length)

def trimmed (cs : List Char) : List Char :=
  ((cs.dropWhile isBlank).reverse.dropWhile isBlank).reverse

def tokenize (s : String) : List Token :=
  match kindRuns (s.length + 1) s.toList with
  | [] => [⟨"", .other⟩]
  | runs => runs.map fun r => ⟨String.ofList (trimmed r), TokenKind.of (r.headD ' ')⟩

def isHourMinute (s : String) : Bool :=
  let minutes (a b : Char) := '0' ≤ a && a ≤ '5' && b.isDigit
  match s.toList with
  | [h, ':', a, b] => h.isDigit && minutes a b
  | [h1, h2, ':', a, b] =>
    ((h1 == '0' || h1 == '1') && h2.isDigit || h1 == '2' && '0' ≤ h2 && h2 ≤ '3') && minutes a b
  | _ => false

def fractionIn (s : String) : Option String :=
  let rest := s.toList.dropWhile fun c => !c.isDigit
  let ds := (rest.takeWhile Char.isDigit).take 6
  if ds.isEmpty then none else some (String.ofList ds)

def meridianIn : List Char → Option String
  | [] => none
  | 'a' :: 'm' :: _ => some "am"
  | 'p' :: 'm' :: _ => some "pm"
  | _ :: rest => meridianIn rest

inductive Component where
  | day
  | month
  | year
deriving DecidableEq, Repr

def DateOrder.components : DateOrder → List Component
  | .dmy => [.day, .month, .year]
  | .mdy => [.month, .day, .year]
  | .ymd => [.year, .month, .day]

def Component.directives : Component → List Directive
  | .day => [.day]
  | .month => [.month]
  | .year => [.shortYear, .year]

def DatePart.get (p : DatePart) : Component → Nat
  | .day => p.day
  | .month => p.month
  | .year => p.year

/-- What has been read of a date. -/
structure Draft where
  year : Option Nat := none
  month : Option Nat := none
  day : Option Nat := none
  weekday : Bool := false
  yearToken : Option Token := none
  monthToken : Option Token := none
  dayToken : Option Token := none
  setAside : List String := []
  numbered : List Component := []
  time : Option String := none
  used : List Nat := []
  yearFinal : Bool := false
deriving Repr

def Draft.get (d : Draft) : Component → Option Nat
  | .day => d.day
  | .month => d.month
  | .year => d.year

def Draft.token (d : Draft) : Component → Option Token
  | .day => d.dayToken
  | .month => d.monthToken
  | .year => d.yearToken

def Draft.set (d : Draft) (c : Component) (v : Nat) (t : Token) : Draft :=
  match c with
  | .day => { d with day := some v, dayToken := some t }
  | .month => { d with month := some v, monthToken := some t }
  | .year => { d with year := some v, yearToken := some t }

structure Tokens where
  all : Array Token
  meaningful : Array (Token × Nat)

def Tokens.pointAt (ts : Tokens) (i : Nat) : Option Bool :=
  ts.all[i]?.map fun t => t.text == "."

def Tokens.joinedHour? (ts : Tokens) (i pos : Nat) (text : String) : Option String := do
  let pointAfter ← ts.pointAt (pos + 1)
  let pointBefore := pos ≠ 0 && (ts.pointAt (pos - 1)).getD false
  if !pointAfter || pointBefore then none
  let (next, nextPos) ← ts.meaningful[i + 1]?
  let last := i + 1 == ts.meaningful.size - 1
  let free := last || (ts.pointAt (nextPos + 1)).any (!·)
  let joined := text ++ ":" ++ next.text
  if free && isHourMinute joined then some joined else none

def Tokens.fraction? (ts : Tokens) (i : Nat) (text : String) : Option String := do
  let (next, _) ← ts.meaningful[i + 1]?
  let digits ← fractionIn next.text
  if !text.contains ':' then none
  let k ← ts.all.findIdx? (· == ⟨text, .numeral⟩)
  let after ← ts.all[k + 1]?
  if after.text.contains '.' then some digits else none

def Tokens.meridian? (ts : Tokens) (j : Nat) : Option String :=
  ts.meaningful[j]? >>= fun (t, _) => meridianIn t.text.toList

def Tokens.findTime (ts : Tokens) (d : Draft) (i pos : Nat) (text : String) : Option Draft :=
  let joined := ts.joinedHour? i pos text
  let text := joined.getD text
  let used := if joined.isSome then d.used ++ [i + 1] else d.used
  let meridianAt := if joined.isSome then i + 2 else i + 1
  let fraction := ts.fraction? i text
  let meridian := ts.meridian? meridianAt
  if !(text.contains ':' || meridian.isSome || fraction.isSome) then none
  else
    let (time, used) :=
      match meridian, fraction with
      | some m, none => (text ++ " " ++ m, used ++ [meridianAt])
      | none, some f => (text ++ "." ++ f, used ++ [i + 1])
      | some m, some f => (text ++ "." ++ f ++ " " ++ m, used ++ [i + 1, i + 2])
      | none, none => (text, used)
    some { d with time := some time, used := used }

def Draft.placeNumber (d : Draft) (order : DateOrder) (t : Token) : Option Draft := do
  let choices := (order.components.filter fun c => !(d.yearFinal && c == .year)).flatMap
    fun c => c.directives.map fun dir => (c, dir)
  let (c, v, aside) ← choices.findSome? fun (c, dir) => do
    let part ← datePart? dir t.text
    match d.get c, d.token c with
    | none, _ => some (c, part.get c, none)
    | some _, some p =>
      if p.kind == .numeral && (datePart? dir p.text).isNone then some (c, part.get c, some p.text)
      else none
    | some _, none => none
  let d := d.set c v t
  some { d with
    setAside := d.setAside ++ aside.toList
    numbered := d.numbered ++ [c]
    yearFinal := d.yearFinal || (t.text.length == 4 && c == .year) }

def monthToDay : List Component → List Component
  | [] => []
  | .month :: rest => .day :: rest
  | c :: rest => c :: monthToDay rest

def Draft.placeWord (d : Draft) (t : Token) : Option Draft :=
  let choices : List (Bool × Directive) :=
    [(true, .weekdayName), (true, .weekdayAbbrev), (false, .monthName), (false, .monthAbbrev)]
  choices.findSome? fun (isWeekday, dir) => do
    let part ← datePart? dir t.text
    if isWeekday then
      if d.weekday then none else some { d with weekday := true }
    else
      match d.month with
      | none => some { d with month := some part.month, monthToken := some t }
      | some earlier =>
        if d.numbered.contains .month then
          some { d with
            numbered := monthToDay d.numbered
            day := some earlier
            dayToken := d.monthToken
            month := some part.month
            monthToken := some t }
        else none

def Tokens.step (ts : Tokens) (order : DateOrder) (d : Draft) (i : Nat) : Option Draft :=
  match ts.meaningful[i]? with
  | none => some d
  | some (t, pos) =>
    if d.used.contains i || ["t", "year", "hour", "minute"].contains t.text then some d
    else
      match (if d.time.isNone then ts.findTime d i pos t.text else none) with
      | some d => some d
      | none => if t.kind == .numeral then d.placeNumber order t else d.placeWord t

def isCalendarDay (y m day : Nat) : Bool := 1 ≤ y && y ≤ 9999 && Date.valid ⟨y, m, day⟩

def Draft.fill (d : Draft) : Option Draft :=
  let fillFrom (d : Draft) (c : Component) (p : String) : Option Draft := do
    let v := digitValue p.toList
    let value (field : Component) := if field == c then some v else d.get field
    let (some y, some m, some day) := (value .year, value .month, value .day) | none
    if isCalendarDay y m day then some (d.set c v ⟨p, .numeral⟩) else none
  [Component.year, .month, .day].foldlM
    (fun d c => if (d.get c).isSome then some d else d.setAside.foldlM (fillFrom · c) d) d

/-- The date and time that a glossed date gives, read in a language's order of fields. -/
def readWords? (s : String) (order : DateOrder) : Option DateTime := do
  let all := (tokenize s).toArray
  let meaningful := all.zipIdx.filter fun (t, _) => t.kind != .other
  let ts : Tokens := ⟨all, meaningful⟩
  let d ← (List.range meaningful.size).foldlM (ts.step order) ({} : Draft)
  let d ← d.fill
  let (some y, some m, some day) := (d.year, d.month, d.day) | none
  let c ← match d.time with
    | some t => readClock? t
    | none => some ⟨0, 0, 0, 0⟩
  if isCalendarDay y m day then some ⟨⟨y, m, day⟩, c.hour, c.minute, c.second, c.micro⟩
  else none

end Kata.Calendar
