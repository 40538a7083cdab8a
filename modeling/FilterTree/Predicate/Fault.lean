/-
Module: FilterTree.Predicate.Fault
Layer: Predicate
Purpose: Why a predicate cannot be read or cannot be decided, as causes with one wording.
Imports: FilterTree.Predicate.Expr
Main exports: Problem, OperandType, Fault, Fault.message
-/
import FilterTree.Predicate.Expr

namespace FilterTree.Predicate

/-- What is wrong at one place of a predicate text. -/
inductive Problem where
  | trailingText
  | openGroup
  | tooDeep
  | noExpression
  | noFieldName
  | noArguments
  | openArguments
  | openLiteral
  | badNumber (text : String)
deriving DecidableEq, Repr

/-- The wording of a problem. -/
def Problem.message : Problem → String
  | .trailingText => "Unexpected input after expression"
  | .openGroup => "Expected ')'"
  | .tooDeep => "Expression nested too deeply"
  | .noExpression => "Expected expression"
  | .noFieldName => "Expected field name"
  | .noArguments => "Expected '(' after function name"
  | .openArguments => "Expected ',' or ')'"
  | .openLiteral => "Unterminated string"
  | .badNumber text => "Invalid number '" ++ text ++ "'"

/-- The types of what predicates compute with. -/
inductive OperandType where
  | undefined
  | null
  | boolean
  | number
  | text
  | date
  | list
  | object
deriving DecidableEq, Repr

/-- The name of a type in messages. -/
def OperandType.name : OperandType → String
  | .undefined => "undefined"
  | .null => "null"
  | .boolean => "boolean"
  | .number => "number"
  | .text => "string"
  | .date => "date"
  | .list => "array"
  | .object => "object"

/-- Why a predicate has no verdict on a record. -/
inductive Fault where
  /-- The text breaks off from the grammar; the position counts bytes of UTF-8 before the place. -/
  | malformed (position : Nat) (problem : Problem)
  /-- No function has this name. -/
  | unknownFunction (name : String)
  /-- A call has the wrong number of arguments. -/
  | arity (function : Function) (given : Nat)
  /-- A function that wants a text got something else. -/
  | typeMismatch (function : Function) (actual : OperandType)
  /-- A record could not be viewed as a value. -/
  | unreadableRecord (reason : String)
deriving DecidableEq, Repr

/-- The wording of a fault. -/
def Fault.message : Fault → String
  | .malformed position problem =>
    "Parse error at position " ++ toString position ++ ": " ++ problem.message
  | .unknownFunction name => "Unknown function: " ++ name
  | .arity function given =>
    function.name ++ " expects " ++ toString function.arity ++ " argument(s), got " ++ toString given
  | .typeMismatch function actual =>
    "Type mismatch in " ++ function.name ++ ": expected string, got " ++ actual.name
  | .unreadableRecord reason => "Record conversion failed: " ++ reason

end FilterTree.Predicate
