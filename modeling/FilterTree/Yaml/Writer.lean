/-
Module: FilterTree.Yaml.Writer
Layer: Yaml
Purpose: Values as YAML texts in block style. An item of a list stands behind a hyphen, a list below a key is
  not indented further than the key, and an empty collection is a pair of brackets. A key that is long, that
  has several lines or that is a collection stands behind a question mark, with its value behind a colon on a
  line of its own.
Imports: FilterTree.Yaml.ScalarText, FilterTree.Yaml.Tag, FilterTree.Scalar
Main exports: Yaml.maxKeySize, Yaml.Layout, Yaml.layout, Yaml.write
-/
import FilterTree.Yaml.ScalarText
import FilterTree.Yaml.Tag
import FilterTree.Scalar

namespace FilterTree.Yaml

/-- A value as it is written. -/
inductive Layout where
  /-- It begins on the line that it stands on. -/
  | inline (text : ScalarText)
  /-- It has lines of its own, perhaps with a tag before them. -/
  | block (tag : Option (List Char)) (isList : Bool) (lines : List (List Char))

/-- A line two columns further in; an empty line stays empty. -/
def indented (line : List Char) : List Char :=
  if line.isEmpty then [] else ' ' :: ' ' :: line

/-- The lines of a value behind a mark. They begin on the line of the mark, unless a tag keeps them off it;
    then those of a list inside a mapping are not indented. -/
def Layout.behindMark (mark : Char) (inMapping : Bool) : Layout → List (List Char)
  | .inline text => (mark :: ' ' :: text.first) :: text.below.map indented
  | .block none _ [] => [[mark]]
  | .block none _ (line :: lines) => (mark :: ' ' :: line) :: lines.map indented
  | .block (some tag) isList lines =>
    (mark :: ' ' :: tag) :: (if isList && inMapping then lines else lines.map indented)

/-- The lines of a value behind a key. -/
def Layout.behindKey (key : List Char) : Layout → List (List Char)
  | .inline text => (key ++ ':' :: ' ' :: text.first) :: text.below.map indented
  | .block tag isList lines =>
    let head := match tag with
      | some tag => key ++ ':' :: ' ' :: tag
      | none => key ++ [':']
    head :: (if isList then lines else lines.map indented)

/-- A value with a tag before it. -/
def Layout.tagged (tag : List Char) : Layout → Layout
  | .inline text => .inline { text with first := tag ++ ' ' :: text.first }
  | .block _ isList lines => .block (some tag) isList lines

/-- The largest number of bytes of a key that stands on the line of its value. -/
def maxKeySize : Nat := 128

/-- The number of bytes of a key without its quotes, if it is no collection with parts and has one line. -/
def keySize? : Value → Option Nat
  | .null => some 4
  | .bool value => some (Text.utf8Size (Scalar.boolChars value))
  | .int value => some (toString value).length
  | .float value => some (numberText value).length
  | .text value => if value.toList.any isBreak then none else some (Text.utf8Size value.toList)
  | .list items => if items.isEmpty then some 0 else none
  | .map entries => if entries.isEmpty then some 0 else none
  | .tagged tag value => (keySize? value).map (1 + Text.utf8Size tag.toList + ·)

mutual

/-- The layout of a value. -/
def layout : Value → Layout
  | .null => .inline (.line ['n', 'u', 'l', 'l'])
  | .bool value => .inline (.line (Scalar.boolChars value))
  | .int value => .inline (.line (toString value).toList)
  | .float value => .inline (.line (numberText value))
  | .text value => .inline (textText value.toList)
  | .list [] => .inline (.line ['[', ']'])
  | .list (item :: rest) => .block none true (itemLines (item :: rest))
  | .map [] => .inline (.line ['\x7b', '\x7d'])
  | .map (entry :: rest) => .block none false (entryLines (entry :: rest))
  | .tagged tag value => (layout value).tagged (tagText tag)

/-- The lines of the items of a list. -/
def itemLines : List Value → List (List Char)
  | [] => []
  | item :: rest => (layout item).behindMark '-' false ++ itemLines rest

/-- The lines of the entries of a mapping. -/
def entryLines : List (Value × Value) → List (List Char)
  | [] => []
  | (key, value) :: rest =>
    let lines :=
      match (keySize? key).filter (· ≤ maxKeySize), layout key with
      | some _, .inline text => (layout value).behindKey text.first
      | _, key => key.behindMark '?' true ++ (layout value).behindMark ':' true
    lines ++ entryLines rest

end

/-- The lines of a value that stands alone. -/
def Layout.lines : Layout → List (List Char)
  | .inline text => text.first :: text.below.map indented
  | .block none _ lines => lines
  | .block (some tag) _ lines => tag :: lines

/-- The text of a value, every line with its end. -/
def write (value : Value) : String :=
  String.ofList ((layout value).lines.flatMap fun line => line ++ ['\n'])

end FilterTree.Yaml
