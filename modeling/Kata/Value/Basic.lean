import Kata.Binary64.Basic

/-! Dynamic values: nothing, truth values, integers, binary64 numbers, strings, lists and
mappings. -/

namespace Kata

/-- A dynamic value. A mapping is a list of entries with pairwise distinct keys, in insertion
order. -/
inductive Value where
  | none
  | bool (b : Bool)
  | int (n : Int)
  | float (x : Binary64)
  | str (s : String)
  | list (items : List Value)
  | dict (entries : List (Value × Value))
deriving Repr, Inhabited

namespace Value

def typeName : Value → String
  | .none => "NoneType"
  | .bool _ => "bool"
  | .int _ => "int"
  | .float _ => "float"
  | .str _ => "str"
  | .list _ => "list"
  | .dict _ => "dict"

def truthy : Value → Bool
  | .none => false
  | .bool b => b
  | .int n => n != 0
  | .float x => !x.isZero
  | .str s => !s.isEmpty
  | .list items => !items.isEmpty
  | .dict entries => !entries.isEmpty

def asInt? : Value → Option Int
  | .bool b => some (if b then 1 else 0)
  | .int n => some n
  | _ => Option.none

def isNumber : Value → Bool
  | .bool _ | .int _ | .float _ => true
  | _ => false

def indexMax : Int := 2 ^ 63 - 1

def sizeLimit : Nat := 2 ^ 32

def ofChar (c : Char) : Value := .str (String.singleton c)

end Value

end Kata
