import Kata.Binary64.Round
import Kata.Unicode.Blank
import Kata.Unicode.Digit

/-! Reading the text of a floating-point literal, rounded once to binary64. -/

namespace Kata.Decimal

def digitRun : List Char → List Char × List Char
  | c :: '_' :: rest@(d :: _) =>
    if c.isDigit ∧ d.isDigit then
      let (ds, r) := digitRun rest
      (c :: ds, r)
    else if c.isDigit then ([c], '_' :: rest)
    else ([], c :: '_' :: rest)
  | c :: rest =>
    if c.isDigit then
      let (ds, r) := digitRun rest
      (c :: ds, r)
    else ([], c :: rest)
  | [] => ([], [])

def digitsValue (ds : List Char) : Nat :=
  ds.foldl (fun acc c => 10 * acc + (c.toNat - '0'.toNat)) 0

structure Literal where
  neg : Bool
  digits : Nat
  exp : Int

def readNumber (neg : Bool) (cs : List Char) : Option Literal :=
  let (whole, r1) := digitRun cs
  let (frac, r2) :=
    match r1 with
    | '.' :: r => digitRun r
    | _ => ([], r1)
  if whole.isEmpty && frac.isEmpty then none
  else
    let expPart : Option Int :=
      match r2 with
      | [] => some 0
      | e :: r =>
        if e = 'e' ∨ e = 'E' then
          let (sgn, r') : Int × List Char :=
            match r with
            | '+' :: t => (1, t)
            | '-' :: t => (-1, t)
            | t => (1, t)
          let (ds, rest) := digitRun r'
          if ds.isEmpty || !rest.isEmpty then none else some (sgn * digitsValue ds)
        else none
    expPart.map fun e => ⟨neg, digitsValue (whole ++ frac), e - frac.length⟩

def Literal.toBinary (l : Literal) : Binary64 :=
  let width : Int := (Nat.toDigits 10 l.digits).length
  if l.digits = 0 then Binary64.signedZero l.neg
  -- far outside the range the rounding is settled without the huge power of ten
  else if l.exp + width > 400 then Binary64.signedInf l.neg
  else if l.exp + width < -400 then Binary64.signedZero l.neg
  else if 0 ≤ l.exp then Binary64.ofRatio l.neg (l.digits * 10 ^ l.exp.toNat) 1
  else Binary64.ofRatio l.neg l.digits (10 ^ (-l.exp).toNat)

def asciiLower (c : Char) : Char :=
  if 'A' ≤ c ∧ c ≤ 'Z' then Char.ofNat (c.toNat + 32) else c

def isSpace (c : Char) : Bool :=
  c = ' ' ∨ c = '\t' ∨ c = '\n' ∨ c.toNat = 11 ∨ c.toNat = 12 ∨ c = '\r'

def asciiOf? (c : Char) : Option Char :=
  if c.toNat < 127 then some c
  else if Unicode.isBlank c then some ' '
  else (Unicode.decimalValue? c).map fun d => Char.ofNat ('0'.toNat + d)

/-- Reads the text of a floating-point literal, white space around it allowed. Digits may be
written in any script and blanks beyond ASCII count as spaces. -/
def read? (s : String) : Option Binary64 := do
  let cs ← s.toList.mapM asciiOf?
  let cs := (cs.dropWhile isSpace).reverse.dropWhile isSpace |>.reverse
  let (neg, body) : Bool × List Char :=
    match cs with
    | '-' :: r => (true, r)
    | '+' :: r => (false, r)
    | r => (false, r)
  let word := String.ofList (body.map asciiLower)
  if word = "nan" then some Binary64.nan
  else if word = "inf" ∨ word = "infinity" then some (Binary64.signedInf neg)
  else (readNumber neg body).map Literal.toBinary

end Kata.Decimal
