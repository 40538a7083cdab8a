/-
Module: FilterTree.Mismatch
Layer: Data
Purpose: Why a value does not have a wanted shape, as a cause with one wording, and the readers of the simple
  shapes.
Imports: FilterTree.Value, FilterTree.Scalar, FilterTree.Text.Shown
Main exports: Found, Mismatch, Mismatch.message, Value.found, Value.readText, Value.readWord, Value.readScalar
-/
import FilterTree.Value
import FilterTree.Scalar
import FilterTree.Text.Shown

namespace FilterTree

/-- What stands where something else was wanted. -/
inductive Found where
  | unit
  | bool (value : Bool)
  | int (value : Int)
  | float (value : Number)
  | text (value : String)
  | list
  | map
  | tagged
deriving DecidableEq, Repr

/-- Why a value does not have a wanted shape. -/
inductive Mismatch where
  | missingField (name : String)
  | duplicateField (name : String)
  | unknownVariant (given : String) (known : List String)
  | invalidType (found : Found) (expected : String)
  | invalidValue (found : Found) (expected : String)
  | taggedPart
deriving DecidableEq, Repr

/-- A text between backticks. -/
def ticked (text : String) : String :=
  "`" ++ text ++ "`"

/-- The text of a number inside a message, where a whole number keeps a fraction. -/
def Number.messageText (value : Number) : String :=
  let text := value.chars
  String.ofList (if value.isFinite && !text.contains '.' then text ++ ['.', '0'] else text)

/-- The wording of what was found. -/
def Found.message : Found → String
  | .unit => "unit value"
  | .bool value => "boolean " ++ ticked (String.ofList (Scalar.boolChars value))
  | .int value => "integer " ++ ticked (toString value)
  | .float value => "floating point " ++ ticked value.messageText
  | .text value => "string " ++ String.ofList (Text.shown value.toList)
  | .list => "sequence"
  | .map => "map"
  | .tagged => "enum"

/-- The wording of a mismatch. -/
def Mismatch.message : Mismatch → String
  | .missingField name => "missing field " ++ ticked name
  | .duplicateField name => "duplicate field " ++ ticked name
  | .unknownVariant given known =>
    "unknown variant " ++ ticked given ++ ", expected one of " ++ ", ".intercalate (known.map ticked)
  | .invalidType found expected => "invalid type: " ++ found.message ++ ", expected " ++ expected
  | .invalidValue found expected => "invalid value: " ++ found.message ++ ", expected " ++ expected
  | .taggedPart => "untagged and internally tagged enums do not support enum input"

namespace Value

/-- What a value counts as in a message. -/
def found : Value → Found
  | .null => .unit
  | .bool value => .bool value
  | .int value => .int value
  | .float value => .float value
  | .text value => .text value
  | .list _ => .list
  | .map _ => .map
  | .tagged _ _ => .tagged

/-- Reads a text. Tags on it do not count. -/
def readText (value : Value) : Except Mismatch String :=
  match value.untagged with
  | .text value => .ok value
  | value => .error (.invalidType value.found "a string")

/-- Reads a text that may be null, which then bears no tag. -/
def readTextOrNull : Value → Except Mismatch (Option String)
  | .null => .ok none
  | value => value.readText.map some

/-- Reads a whole number of 32 bits. Tags on it do not count. -/
def readWord (value : Value) : Except Mismatch UInt32 :=
  match value.untagged with
  | .int value =>
    if 0 ≤ value ∧ value < UInt32.size then .ok (UInt32.ofNat value.toNat)
    else .error (.invalidValue (.int value) "u32")
  | value => .error (.invalidType value.found "u32")

/-- Reads a scalar. Numbers of every form become binary numbers. -/
def readScalar : Value → Except Mismatch Scalar
  | .null => .ok .null
  | .bool value => .ok (.bool value)
  | .int value => .ok (.number (Number.ofInt value))
  | .float value => .ok (.number value)
  | .text value => .ok (.text value)
  | value => .error (.invalidType value.found "a string, number, boolean or null")

end Value

namespace Scalar

/-- A scalar as a value. A value cannot tell an undefined scalar from a null one. -/
def toValue : Scalar → Value
  | .text value => .text value
  | .number value => .float value
  | .bool value => .bool value
  | .null => .null
  | .undefined => .null

end Scalar

end FilterTree
