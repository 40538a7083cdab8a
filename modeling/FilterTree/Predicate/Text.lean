/-
Module: FilterTree.Predicate.Text
Layer: Predicate
Purpose: The predicate text of a filter tree. Every comparison fills the template of its operator; values are
  written as literals, fields as they are.
Imports: FilterTree.Spelling, FilterTree.Text.Quoted
Main exports: Scalar.literal, Piece.fill, Comparison.predicate, Predicate.spelling, Predicate.text
-/
import FilterTree.Spelling
import FilterTree.Text.Quoted

namespace FilterTree

/-- A scalar as a literal of a predicate: a text is quoted, everything else is bare. -/
def Scalar.literal : Scalar → List Char
  | .text value => Text.quote value.toList
  | scalar => scalar.chars

/-- A part of a template with the field and the value in their places. What is put in is not looked at. -/
def Piece.fill (field value : List Char) : Piece → List Char
  | .fixed text => text.toList
  | .field => field
  | .value => value

/-- The predicate text of a comparison. -/
def Comparison.predicate (comparison : Comparison) : List Char :=
  comparison.operator.pieces.flatMap (Piece.fill comparison.field.toList comparison.value.literal)

namespace Predicate

/-- Predicates write connectives between spaces. -/
def spelling : Spelling where
  connective connective := ' ' :: (connective.symbol.toList ++ [' '])
  comparison := Comparison.predicate

/-- The predicate text of a list of siblings. -/
def text (nodes : List Node) : String :=
  String.ofList (spelling.writeAll nodes)

end Predicate

end FilterTree
