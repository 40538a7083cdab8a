/-
Module: FilterTree.Scalar
Layer: Data
Purpose: Scalars, the right-hand sides of comparisons and the literals of predicates.
Imports: FilterTree.Number.Shortest
Main exports: Scalar, Scalar.chars, Scalar.bareText
-/
import FilterTree.Number.Shortest

namespace FilterTree

/-- A single value without parts. A null is a value that is given and empty; an undefined one is not given. -/
inductive Scalar where
  | text (value : String)
  | number (value : Number)
  | bool (value : Bool)
  | null
  | undefined
deriving DecidableEq, Repr

namespace Scalar

/-- The spelling of a truth value. -/
def boolChars (value : Bool) : List Char :=
  if value then ['t', 'r', 'u', 'e'] else ['f', 'a', 'l', 's', 'e']

/-- The bare text of a scalar: a text without quotes, and a word for what is not there. -/
def chars : Scalar → List Char
  | .text value => value.toList
  | .number value => value.chars
  | .bool value => boolChars value
  | .null => ['n', 'u', 'l', 'l']
  | .undefined => ['u', 'n', 'd', 'e', 'f', 'i', 'n', 'e', 'd']

/-- The bare text of a scalar, as a string. -/
def bareText (scalar : Scalar) : String :=
  String.ofList scalar.chars

end Scalar

end FilterTree
