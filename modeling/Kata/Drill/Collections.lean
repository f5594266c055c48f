import Kata.Value.Arith
import Kata.Value.Access

/-! Exercises on collections: the last item, edits at either end of a list, counts, common
members and a search among arguments. -/

namespace Kata.Drill

open Value

def lastItem (arr : Value) : Except Fault Value :=
  if arr.truthy then arr.index (-1) else .ok .none

def insertFront (arr item : Value) : Except Fault Value :=
  match arr with
  | .list xs => .ok (.list (item :: xs))
  | v => .error (.noAttribute v.typeName "insert")

def append (arr item : Value) : Except Fault Value :=
  match arr with
  | .list xs => .ok (.list (xs ++ [item]))
  | v => .error (.noAttribute v.typeName "append")

def removeFront (arr : Value) : Except Fault Value :=
  match arr with
  | .list xs => .ok (.list xs.tail)
  | .dict entries =>
    if (lookup? entries (.int 0)).isSome then
      .ok (.dict (entries.filter fun e => !scalarEquals (.int 0) e.1))
    else .error (.missingKey "0")
  | v => .error (.noAttribute v.typeName "pop")

def removeBack (arr : Value) : Except Fault Value :=
  match arr with
  | .list xs => .ok (.list xs.dropLast)
  | .dict _ => .error .popWithoutKey
  | v => .error (.noAttribute v.typeName "pop")

def inPlace (arr : Value) : Except Fault Value → Except Fault Value × Value
  | .ok changed => (.ok changed, changed)
  | .error f => (.error f, arr)

/-- An edit at the `"beginning"` or `"end"` of a list, made in place: the answer, with the argument
as the edit leaves it. Adding needs a truthy place and value; removing refuses a truthy value and
an empty list. Any other operation or place leaves the list as it is, and a refusal is answered
with a sentence. -/
def listEditInPlace (arr operation location value : Value) : Except Fault Value × Value :=
  let placeIs (place : String) := location.equals (.str place)
  let refuse (sentence : String) : Except Fault Value × Value := (.ok (.str sentence), arr)
  if operation.equals (.str "add") then
    if !location.truthy || !value.truthy then refuse "please input where to add or an value"
    else if placeIs "beginning" then inPlace arr (insertFront arr value)
    else if placeIs "end" then inPlace arr (append arr value)
    else (.ok arr, arr)
  else if operation.equals (.str "remove") then
    if value.truthy then refuse "Get rid of value parameter on remove"
    else if !arr.truthy then refuse "List is empty"
    else if placeIs "beginning" then inPlace arr (removeFront arr)
    else if placeIs "end" then inPlace arr (removeBack arr)
    else (.ok arr, arr)
  else (.ok arr, arr)

def listEdit (arr operation location value : Value) : Except Fault Value :=
  (listEditInPlace arr operation location value).1

def frequency (arr term : Value) : Except Fault Value := do
  if !arr.truthy then return .str "arr is None"
  let xs ← arr.items
  return .int (xs.countP fun x => x.equals term)

def compact (arr : Value) : Except Fault Value := do
  return .list ((← arr.items).filter Value.truthy)

def members (v : Value) : Except Fault (List Value) := do
  let xs ← v.items
  xs.foldlM (fun acc x =>
    if !x.hashable then throw (.unhashable x.typeName)
    else if acc.any fun y => y.equals x then pure acc
    else pure (acc ++ [x])) []

def kindRank : Value → Nat
  | .none => 0
  | .bool _ => 1
  | .int _ | .float _ => 2
  | _ => 3

/-- The presentation order of set members: by kind, then by value; strings by code point. -/
def memberLE (a b : Value) : Bool :=
  if kindRank a != kindRank b then kindRank a < kindRank b
  else
    match a, b with
    | .str s, .str t => compare s t != .gt
    | _, _ =>
      match a.magnitude?, b.magnitude? with
      | some x, some y => x.compare y != .gt
      | _, _ => true

/-- The members common to both collections, in presentation order. Of two equal members the one of
the smaller set is kept, of the second set when both have the same size. -/
def commonItems (a b : Value) : Except Fault Value := do
  let sa ← members a
  let sb ← members b
  let (small, large) := if sb.length > sa.length then (sa, sb) else (sb, sa)
  let common := small.filter fun x => large.any fun y => y.equals x
  return .list (common.mergeSort memberLE)

def containsPurple (args : Value) : Except Fault Value :=
  match args.items with
  | .ok xs => .ok (.bool (xs.any fun x => x.equals (.str "purple")))
  | .error _ => .error (.spreadNotIterable "spz_exe.contains_purple" args.typeName)

end Kata.Drill
