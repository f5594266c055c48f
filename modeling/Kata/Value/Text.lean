import Kata.Value.Basic
import Kata.Decimal.Notation
import Kata.Text.Quote

/-! The literal text of a value. -/

namespace Kata

namespace Value

mutual

/-- The literal of a value. -/
def repr : Value → String
  | .none => "None"
  | .bool b => if b then "True" else "False"
  | .int n => toString n
  | .float x => Decimal.Notation.float.render x
  | .str s => Text.quoteString s
  | .list items => "[" ++ ", ".intercalate (reprItems items) ++ "]"
  | .dict entries => "\x7b" ++ ", ".intercalate (reprEntries entries) ++ "\x7d"

def reprItems : List Value → List String
  | [] => []
  | v :: rest => repr v :: reprItems rest

def reprEntries : List (Value × Value) → List String
  | [] => []
  | (k, v) :: rest => (repr k ++ ": " ++ repr v) :: reprEntries rest

end

def toText : Value → String
  | .str s => s
  | v => v.repr

end Value

end Kata
