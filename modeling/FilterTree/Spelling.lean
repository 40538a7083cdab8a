/-
Module: FilterTree.Spelling
Layer: Tree
Purpose: Filter trees as text. A spelling says how the parentheses of groups, the connectives and the
  comparisons are written, and one writer serves every spelling. Where two operands stand side by side the
  writer puts the connective `and` between them.
Imports: FilterTree.Node
Main exports: Spelling, Spelling.write, Spelling.writeAll
-/
import FilterTree.Node

namespace FilterTree

/-- How the parts of a filter tree are written. -/
structure Spelling where
  /-- The text of a connective among its siblings. -/
  connective : Connective → List Char
  /-- The text of a comparison, which may be nothing. -/
  comparison : Comparison → List Char

namespace Spelling

mutual

/-- The text of one node; a group is parenthesised. -/
def write (spelling : Spelling) : Node → List Char
  | .comparison _ c => spelling.comparison c
  | .connective _ c => spelling.connective c
  | .group _ children => '(' :: (writeAfter spelling false children ++ [')'])

/-- The text of siblings; the flag says whether an operand stands right before them. -/
def writeAfter (spelling : Spelling) (afterOperand : Bool) : List Node → List Char
  | [] => []
  | node :: rest =>
    (if afterOperand && node.isOperand then spelling.connective .and else []) ++
      (write spelling node ++ writeAfter spelling node.isOperand rest)

end

/-- The text of a list of siblings. -/
def writeAll (spelling : Spelling) (nodes : List Node) : List Char :=
  writeAfter spelling false nodes

end Spelling

end FilterTree
