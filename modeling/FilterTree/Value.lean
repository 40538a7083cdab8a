/-
Module: FilterTree.Value
Layer: Data
Purpose: Values of structured documents, which records are made of, and the step from a value to one of its
  parts by name.
Imports: FilterTree.Number.Basic, FilterTree.Text.Digits
Main exports: Value, Value.untagged, Value.isBare, Value.part?
-/
import FilterTree.Number.Basic
import FilterTree.Text.Digits

namespace FilterTree

/-- A value of a structured document. Keys of a mapping are values themselves and keep their order; a tag
    wraps the value that it marks. -/
inductive Value where
  | null
  | bool (value : Bool)
  | int (value : Int)
  | float (value : Number)
  | text (value : String)
  | list (items : List Value)
  | map (entries : List (Value × Value))
  | tagged (tag : String) (value : Value)
deriving Repr, Inhabited

namespace Value

/-- The value under all tags. -/
def untagged : Value → Value
  | .tagged _ value => value.untagged
  | value => value

mutual

/-- Whether no tag stands on a value, or anywhere in it. -/
def isBare : Value → Bool
  | .list items => areBare items
  | .map entries => entriesBare entries
  | .tagged _ _ => false
  | _ => true

/-- Whether no tag stands on or in any of several values. -/
def areBare : List Value → Bool
  | [] => true
  | item :: rest => item.isBare && areBare rest

/-- Whether no tag stands on or in any key or value of some entries. -/
def entriesBare : List (Value × Value) → Bool
  | [] => true
  | (key, value) :: rest => key.isBare && (value.isBare && entriesBare rest)

end

/-- The value stored under a text key, if there is one. -/
def entry? (name : String) : List (Value × Value) → Option Value
  | [] => none
  | (.text key, value) :: rest => if key = name then some value else entry? name rest
  | _ :: rest => entry? name rest

/-- The part of a value that a name selects: an entry of a mapping or an item of a list, seen through tags. -/
def part? (value : Value) (name : String) : Option Value :=
  match value.untagged with
  | .list items => (Text.unsigned? name.toList).bind fun index => items[index]?
  | .map entries => entry? name entries
  | _ => none

end Value

end FilterTree
