/-
Module: FilterTree.Text.Shown
Layer: Text
Purpose: A text inside a message, between double quotes, with everything that would not show there escaped.
Imports: FilterTree.Text.Basic, FilterTree.Text.HiddenTable
Main exports: Text.shown
-/
import FilterTree.Text.Basic
import FilterTree.Text.HiddenTable

namespace FilterTree.Text

/-- One character of a shown text. Quotes, backslashes and the usual controls have escapes of their own, and
    another character without a shape is given by its code point in hexadecimal. -/
def shownChar (c : Char) : List Char :=
  if c = Char.ofNat 0 then ['\\', '0']
  else if c = '\t' then ['\\', 't']
  else if c = '\r' then ['\\', 'r']
  else if c = '\n' then ['\\', 'n']
  else if c = '"' || c = '\\' then ['\\', c]
  else if within hiddenRanges c then
    ['\\', 'u', '\x7b'] ++ Nat.toDigits 16 c.toNat ++ ['\x7d']
  else [c]

/-- A text between double quotes. -/
def shown (text : List Char) : List Char :=
  '"' :: text.flatMap shownChar ++ ['"']

end FilterTree.Text
