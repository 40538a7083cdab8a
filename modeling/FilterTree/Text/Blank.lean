/-
Module: FilterTree.Text.Blank
Layer: Text
Purpose: Blank characters and what leaves them out. Blank is the Unicode property White_Space.
Imports: FilterTree.Text.Basic
Main exports: Text.isBlank, Text.skipBlanks, Text.trim, Text.isBlankText
-/
import FilterTree.Text.Basic

namespace FilterTree.Text

/-- The Unicode property White_Space: first and last code point of each range. -/
def blankRanges : List (Nat × Nat) := [
  (9, 13), (32, 32), (133, 133), (160, 160), (5760, 5760), (8192, 8202), (8232, 8233), (8239, 8239),
  (8287, 8287), (12288, 12288)]

/-- Whether a character is blank. -/
def isBlank (c : Char) : Bool :=
  within blankRanges c

/-- A text without the blanks at its front. -/
def skipBlanks (text : List Char) : List Char :=
  text.dropWhile isBlank

/-- A text without the blanks at either end. -/
def trim (text : List Char) : List Char :=
  (skipBlanks (skipBlanks text).reverse).reverse

/-- Whether a text holds nothing but blanks. -/
def isBlankText (text : List Char) : Bool :=
  text.all isBlank

end FilterTree.Text
