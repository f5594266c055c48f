import Kata.Value.Basic
import Kata.Fault

/-! Formatting text with one integer by `%` conversions. -/

namespace Kata.Format

def conversions : List Char :=
  ['s', 'r', 'a', 'd', 'i', 'u', 'o', 'x', 'X', 'e', 'E', 'f', 'F', 'g', 'G', 'c']

def integerConversions : List Char := ['d', 'i', 'u', 'o', 'x', 'X']

def flags : List Char := ['-', '+', ' ', '#', '0']

def digits (cs : List Char) : Nat × Nat × List Char :=
  let ds := cs.takeWhile Char.isDigit
  (ds.foldl (fun acc c => 10 * acc + (c.toNat - '0'.toNat)) 0, ds.length, cs.dropWhile Char.isDigit)

structure Cursor where
  index : Nat
  used : Bool
  rest : List Char

def precisionMax : Nat := 2147483647

def count (limit : Nat) (tooBig : Fault) (c : Cursor) : Except Fault (Nat × Cursor) :=
  match c.rest with
  | '*' :: r =>
    if c.used then .error .formatArgumentsMissing else .ok (0, ⟨c.index + 1, true, r⟩)
  | cs =>
    let (n, len, r) := digits cs
    if n > limit then .error tooBig else .ok (n, ⟨c.index + len, c.used, r⟩)

def conversion (c : Cursor) : Except Fault Cursor := do
  if c.rest.head? = some '(' then throw .formatNeedsMapping
  let fl := c.rest.takeWhile (· ∈ flags)
  let c : Cursor := ⟨c.index + fl.length, c.used, c.rest.drop fl.length⟩
  let (width, c) ← count Value.indexMax.toNat .formatWidthTooBig c
  let (precision, c) ←
    match c.rest with
    | '.' :: r => count precisionMax .formatPrecisionTooBig ⟨c.index + 1, c.used, r⟩
    | _ => pure (0, c)
  let c : Cursor :=
    match c.rest with
    | l :: r => if l = 'h' ∨ l = 'l' ∨ l = 'L' then ⟨c.index + 1, c.used, r⟩ else c
    | [] => c
  match c.rest with
  | [] => throw .formatIncomplete
  | k :: r =>
    if c.used then throw .formatArgumentsMissing
    if k ∉ conversions then throw (.formatBadConversion k c.index)
    if k ∈ integerConversions ∧ precision > precisionMax - 3 then throw .formatPrecisionTooLarge
    if width > Value.sizeLimit ∨ precision > Value.sizeLimit then throw .outOfMemory
    pure ⟨c.index + 1, true, r⟩

/-- The fault of formatting the rest of a format, if any. `fuel` bounds the characters left. -/
def scan (fuel : Nat) (c : Cursor) : Option Fault :=
  match fuel with
  | 0 => none
  | fuel + 1 =>
    match c.rest with
    | [] => if c.used then none else some .formatArgumentsLeft
    | '%' :: '%' :: r => scan fuel ⟨c.index + 2, c.used, r⟩
    | '%' :: r =>
      match conversion ⟨c.index + 1, c.used, r⟩ with
      | .ok c' => scan fuel c'
      | .error f => some f
    | _ :: r => scan fuel ⟨c.index + 1, c.used, r⟩

def faultWithInt? (format : String) : Option Fault :=
  scan (format.length + 1) ⟨0, false, format.toList⟩

end Kata.Format
