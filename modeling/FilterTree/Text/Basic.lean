/-
Module: FilterTree.Text.Basic
Layer: Text
Purpose: Operations on texts as lists of characters that the other modules share: membership in a table of
  ranges, cutting at a separator, taking a fixed beginning off, and the size in UTF-8.
Imports: none
Main exports: Text.within, Text.splitOn, Text.stripPrefix?, Text.startsWith, Text.endsWith, Text.contains,
  Text.utf8Size
-/

namespace FilterTree.Text

/-- Whether a character lies in one of the ranges. -/
def within (ranges : List (Nat × Nat)) (c : Char) : Bool :=
  ranges.any fun range => range.1 ≤ c.toNat && c.toNat ≤ range.2

/-- Cuts a text at every occurrence of a separator. There is one part more than there are separators. -/
def splitOn (separator : Char) : List Char → List (List Char)
  | [] => [[]]
  | c :: rest =>
    if c = separator then [] :: splitOn separator rest
    else
      match splitOn separator rest with
      | part :: parts => (c :: part) :: parts
      | [] => [[c]]

/-- What follows `start` in a text that begins with it. -/
def stripPrefix? : List Char → List Char → Option (List Char)
  | [], text => some text
  | _ :: _, [] => none
  | s :: start, c :: text => if s = c then stripPrefix? start text else none

/-- Whether a text begins with `start`. -/
def startsWith (text start : List Char) : Bool :=
  (stripPrefix? start text).isSome

/-- Whether a text ends with `tail`. -/
def endsWith (text tail : List Char) : Bool :=
  startsWith text.reverse tail.reverse

/-- Whether `piece` stands anywhere in a text; the empty piece stands in every text. -/
def contains : List Char → List Char → Bool
  | [], piece => piece.isEmpty
  | c :: rest, piece => startsWith (c :: rest) piece || contains rest piece

/-- The number of bytes of a text in UTF-8. -/
def utf8Size : List Char → Nat
  | [] => 0
  | c :: rest => c.utf8Size + utf8Size rest

end FilterTree.Text
