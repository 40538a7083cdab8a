/-
Module: FilterTree.Text.Lowercase
Layer: Text
Purpose: The lower-case form of a text, by the default case conversion of Unicode. Two things make it more
  than a map over characters: capital I with a dot above becomes two characters, and capital sigma takes its
  final form at the end of a word.
Imports: FilterTree.Text.Basic, FilterTree.Text.CaseTable
Main exports: Text.lower
-/
import FilterTree.Text.Basic
import FilterTree.Text.CaseTable

namespace FilterTree.Text

/-- The image of a code point in a run of `lowerRuns`, if the run holds it. -/
def runImage? (code : Nat) (run : Nat × Nat × Nat × Nat) : Option Nat :=
  let (first, last, step, image) := run
  if first ≤ code ∧ code ≤ last ∧ (code - first) % step = 0 then some (image + (code - first))
  else none

/-- The lower-case form of one character without its neighbours. -/
def lowerChar (c : Char) : List Char :=
  if c.toNat < 128 then [c.toLower]
  else if c.toNat = 304 then ['i', Char.ofNat 775]
  else
    match lowerRuns.findSome? (runImage? c.toNat) with
    | some image => [Char.ofNat image]
    | none => [c]

/-- Whether a text, read past its case-ignorable characters, begins with a cased one. -/
def leadsCased (text : List Char) : Bool :=
  match text.dropWhile (within caseIgnorableRanges) with
  | c :: _ => within casedRanges c
  | [] => false

/-- The lower-case form of a text that stands after `before`, which is given last character first. A sigma
    is final when a cased character goes before it and none follows. -/
def lowerAfter (before : List Char) : List Char → List Char
  | [] => []
  | c :: rest =>
    let image :=
      if c = 'Σ' then [if leadsCased before && !leadsCased rest then 'ς' else 'σ'] else lowerChar c
    image ++ lowerAfter (c :: before) rest

/-- The lower-case form of a text. -/
def lower (text : List Char) : List Char :=
  lowerAfter [] text

end FilterTree.Text
