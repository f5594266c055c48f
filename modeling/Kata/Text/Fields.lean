import Kata.Unicode.Blank

/-! The fields of a text: its maximal runs of characters that are not blank. -/

namespace Kata.Text

open Unicode

def fieldsFrom (current : List Char) : List Char → List (List Char)
  | [] => if current.isEmpty then [] else [current.reverse]
  | c :: rest =>
    if isBlank c then
      if current.isEmpty then fieldsFrom [] rest else current.reverse :: fieldsFrom [] rest
    else fieldsFrom (c :: current) rest

def fields (cs : List Char) : List (List Char) := fieldsFrom [] cs

end Kata.Text
