/-
Module: FilterTree.Text.Form
Layer: Text
Purpose: The form encoding of query strings. Letters, digits and four marks stand for themselves, a space
  becomes a plus, and every other byte of the text in UTF-8 becomes a percent sign and two hexadecimal digits.
Imports: none
Main exports: Text.formEncode, Text.formPairs
-/

namespace FilterTree.Text

/-- The upper-case hexadecimal digit of a value below sixteen. -/
def hexDigit (value : Nat) : Char :=
  (Nat.digitChar value).toUpper

/-- Whether a character stands for itself in the form encoding. -/
def isFormSafe (c : Char) : Bool :=
  c.isAlphanum || c == '*' || c == '-' || c == '.' || c == '_'

/-- A byte behind a percent sign. -/
def percent (byte : UInt8) : List Char :=
  ['%', hexDigit (byte.toNat / 16), hexDigit (byte.toNat % 16)]

/-- The form encoding of one character. -/
def formEncodeChar (c : Char) : List Char :=
  if isFormSafe c then [c]
  else if c = ' ' then ['+']
  else (String.utf8EncodeChar c).flatMap percent

/-- The form encoding of a text. -/
def formEncode (text : List Char) : List Char :=
  text.flatMap formEncodeChar

/-- Named values in the form encoding, in order, with `=` in each pair and `&` between pairs. -/
def formPairs : List (List Char × List Char) → List Char
  | [] => []
  | [(name, value)] => formEncode name ++ '=' :: formEncode value
  | (name, value) :: rest => formEncode name ++ '=' :: (formEncode value ++ '&' :: formPairs rest)

end FilterTree.Text
