/-
Module: FilterTree.Operator
Layer: Data
Purpose: The operators of filter trees: the connectives between conditions, and the comparison operators with
  what each of them asks of a field. One description of the question gives both the template of the predicate
  text and the syntax tree, so the two cannot drift apart.
Imports: FilterTree.Predicate.Expr
Main exports: Connective, Operator, Operator.check, Piece, Check.pieces, Check.expr
-/
import FilterTree.Predicate.Expr

namespace FilterTree

/-- What may stand between or before the conditions of a filter tree. -/
inductive Connective where
  | and
  | or
  | not
deriving DecidableEq, Repr

namespace Connective

/-- The symbol of a connective, which is also its name. -/
def symbol : Connective → String
  | .and => "&&"
  | .or => "||"
  | .not => "!"

/-- Every connective, each once. -/
def all : List Connective := [.and, .or, .not]

end Connective

/-- The comparison operators of filter trees. -/
inductive Operator where
  | equals
  | notEquals
  | lessThan
  | greaterThan
  | greaterThanOrEqual
  | lessThanOrEqual
  | contains
  | notContains
  | startsWith
  | notStartsWith
  | endsWith
  | notEndsWith
  | isEmpty
  | isNotEmpty
  | isNull
  | isNotNull
  | isDateGreaterThan
  | isDateGreaterThanOrEqual
  | isDateLessThan
  | isDateLessThanOrEqual
  | isDateEqualTo
  | isDateNotEqualTo
  | isUndefined
  | isNotUndefined
deriving DecidableEq, Repr

/-!
### What an operator asks
-/

/-- The question that a comparison puts to a field. -/
inductive Check where
  /-- The field stands in a relation to the value. -/
  | compared (relation : Relation)
  /-- A function of two texts holds, or fails, of the field and the value in lower case. -/
  | matching (function : Function) (negated : Bool)
  /-- The length of the field stands in a relation to zero. -/
  | size (relation : Relation)
  /-- The field stands in a relation to a fixed scalar. -/
  | constant (relation : Relation) (scalar : Scalar)
  /-- The day of the field stands in a relation to the day of the value. -/
  | day (relation : Relation)
deriving DecidableEq, Repr

/-- A part of a template: fixed text, or the place of the field or of the value. -/
inductive Piece where
  | fixed (text : String)
  | field
  | value
deriving DecidableEq, Repr

/-- The spelling of a part of a template, with a name in braces for a place. -/
def Piece.spelling : Piece → String
  | .fixed text => text
  | .field => "\x7bfield\x7d"
  | .value => "\x7bvalue\x7d"

namespace Check

/-- The template of the predicate text, part by part. -/
def pieces : Check → List Piece
  | .compared relation => [.fixed "record?.", .field, .fixed (" " ++ relation.symbol ++ " "), .value]
  | .matching function negated =>
    [.fixed ((if negated then "!" else "") ++ function.name ++ "(lower(record?."), .field,
      .fixed "), lower(", .value, .fixed "))"]
  | .size relation => [.fixed "len(record?.", .field, .fixed (") " ++ relation.symbol ++ " 0")]
  | .constant relation scalar =>
    [.fixed "record?.", .field, .fixed (" " ++ relation.symbol ++ " " ++ scalar.bareText)]
  | .day relation =>
    [.fixed "date(record?.", .field, .fixed (") " ++ relation.symbol ++ " date("), .value, .fixed ")"]

/-- The symbol of the question in remote queries. They have no words for emptiness, constants or days, so
    these questions share the symbols of equality and order. -/
def symbol : Check → String
  | .compared .eq | .size .eq | .constant .eq _ | .day .eq => "="
  | .compared relation | .size relation | .constant relation _ | .day relation => relation.symbol
  | .matching .startsWith false => "^"
  | .matching .startsWith true => "!^"
  | .matching .endsWith false => "$"
  | .matching .endsWith true => "!$"
  | .matching _ false => "=*"
  | .matching _ true => "!*"

/-- The syntax tree of the question, for a field at the given steps. -/
def expr (steps : List String) (value : Scalar) : Check → Expr
  | .compared relation => .compare relation (.path steps) (.literal value)
  | .matching function negated =>
    let call := Expr.call function [.call .lower [.path steps], .call .lower [.literal value]]
    if negated then .not call else call
  | .size relation => .compare relation (.call .len [.path steps]) (.literal (.number .zero))
  | .constant relation scalar => .compare relation (.path steps) (.literal scalar)
  | .day relation => .compare relation (.call .date [.path steps]) (.call .date [.literal value])

end Check

namespace Operator

/-- Every operator, each once, in the order of the catalogue. -/
def all : List Operator := [
  .equals, .notEquals, .lessThan, .greaterThan, .greaterThanOrEqual, .lessThanOrEqual, .contains,
  .notContains, .startsWith, .notStartsWith, .endsWith, .notEndsWith, .isEmpty, .isNotEmpty, .isNull,
  .isNotNull, .isDateGreaterThan, .isDateGreaterThanOrEqual, .isDateLessThan, .isDateLessThanOrEqual,
  .isDateEqualTo, .isDateNotEqualTo, .isUndefined, .isNotUndefined]

/-- The name of an operator in documents. -/
def name : Operator → String
  | .equals => "Equals"
  | .notEquals => "NotEquals"
  | .lessThan => "LessThan"
  | .greaterThan => "GreaterThan"
  | .greaterThanOrEqual => "GreaterThanOrEqual"
  | .lessThanOrEqual => "LessThanOrEqual"
  | .contains => "Contains"
  | .notContains => "NotContains"
  | .startsWith => "StartsWith"
  | .notStartsWith => "NotStartsWith"
  | .endsWith => "EndsWith"
  | .notEndsWith => "NotEndsWith"
  | .isEmpty => "IsEmpty"
  | .isNotEmpty => "IsNotEmpty"
  | .isNull => "IsNull"
  | .isNotNull => "IsNotNull"
  | .isDateGreaterThan => "IsDateGreaterThan"
  | .isDateGreaterThanOrEqual => "IsDateGreaterThanOrEqual"
  | .isDateLessThan => "IsDateLessThan"
  | .isDateLessThanOrEqual => "IsDateLessThanOrEqual"
  | .isDateEqualTo => "IsDateEqualTo"
  | .isDateNotEqualTo => "IsDateNotEqualTo"
  | .isUndefined => "IsUndefined"
  | .isNotUndefined => "IsNotUndefined"

/-- What an operator asks of its field. -/
def check : Operator → Check
  | .equals => .compared .eq
  | .notEquals => .compared .ne
  | .lessThan => .compared .lt
  | .greaterThan => .compared .gt
  | .greaterThanOrEqual => .compared .ge
  | .lessThanOrEqual => .compared .le
  | .contains => .matching .contains false
  | .notContains => .matching .contains true
  | .startsWith => .matching .startsWith false
  | .notStartsWith => .matching .startsWith true
  | .endsWith => .matching .endsWith false
  | .notEndsWith => .matching .endsWith true
  | .isEmpty => .size .eq
  | .isNotEmpty => .size .ne
  | .isNull => .constant .eq .null
  | .isNotNull => .constant .ne .null
  | .isUndefined => .constant .eq .undefined
  | .isNotUndefined => .constant .ne .undefined
  | .isDateGreaterThan => .day .gt
  | .isDateGreaterThanOrEqual => .day .ge
  | .isDateLessThan => .day .lt
  | .isDateLessThanOrEqual => .day .le
  | .isDateEqualTo => .day .eq
  | .isDateNotEqualTo => .day .ne

/-- The symbol of an operator in remote queries. -/
def symbol (operator : Operator) : String :=
  operator.check.symbol

/-- The template of the predicate text of an operator, part by part. -/
def pieces (operator : Operator) : List Piece :=
  operator.check.pieces

/-- The template of an operator as one text. -/
def template (operator : Operator) : String :=
  String.join (operator.pieces.map Piece.spelling)

end Operator

end FilterTree
