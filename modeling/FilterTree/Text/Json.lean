/-
Module: FilterTree.Text.Json
Layer: Text
Purpose: Texts as JSON literals.
Imports: none
Main exports: Text.jsonLiteral
-/

namespace FilterTree.Text

/-- One character of a JSON literal. Quotes, backslashes and the usual controls have escapes of their own, and
    another control character is given by four hexadecimal digits. -/
def jsonChar (c : Char) : List Char :=
  if c = '"' || c = '\\' then ['\\', c]
  else if c.toNat = 8 then ['\\', 'b']
  else if c = '\t' then ['\\', 't']
  else if c = '\n' then ['\\', 'n']
  else if c.toNat = 12 then ['\\', 'f']
  else if c = '\r' then ['\\', 'r']
  else if c.toNat < 32 then
    ['\\', 'u', '0', '0', Nat.digitChar (c.toNat / 16), Nat.digitChar (c.toNat % 16)]
  else [c]

/-- A text between double quotes, as JSON writes it. -/
def jsonLiteral (text : String) : String :=
  "\"" ++ String.ofList (text.toList.flatMap jsonChar) ++ "\""

end FilterTree.Text
