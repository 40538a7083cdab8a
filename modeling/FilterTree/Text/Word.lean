/-
Module: FilterTree.Text.Word
Layer: Text
Purpose: The characters of names: letters and numbers of any script, and the marks that may join them.
Imports: FilterTree.Text.Basic, FilterTree.Text.WordTable
Main exports: Text.isAlphanumeric, Text.isNameChar, Text.isFieldChar
-/
import FilterTree.Text.Basic
import FilterTree.Text.WordTable

namespace FilterTree.Text

/-- Letters and numbers of any script: the Unicode property Alphabetic and the categories Nd, Nl and No. -/
def isAlphanumeric (c : Char) : Bool :=
  c.isAlphanum || (128 ≤ c.toNat && within wordRanges c)

/-- The characters of a keyword or a function name. -/
def isNameChar (c : Char) : Bool :=
  isAlphanumeric c || c == '_'

/-- The characters of one step of a field path. -/
def isFieldChar (c : Char) : Bool :=
  isNameChar c || c == '$'

end FilterTree.Text
