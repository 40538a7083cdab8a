/-
Module: FilterTree.Proofs.Tree.Shape
Layer: Proofs
Purpose: The shape of a filter tree: what is left of it when the labels go, an `&&` stands between adjacent
  operands at every depth, and of each comparison only a view counts. A spelling that looks at no more than the
  view writes the shape, so trees of one shape have one text.
Imports: FilterTree.Spelling
Main exports: Shape, Shape.writeAll, Node.shapes, Node.EveryAmong, Spelling.writeAll_shapes
-/
import FilterTree.Spelling

namespace FilterTree

/-- A filter tree without labels, with a view of each comparison in its place. -/
inductive Shape (β : Type) where
  | leaf (view : β)
  | connective (connective : Connective)
  | group (inner : List (Shape β))

namespace Shape

variable {β : Type} (connective : Connective → List Char) (leaf : β → List Char)

mutual

/-- The text of a shape; a group is parenthesised. -/
def write : Shape β → List Char
  | .leaf view => leaf view
  | .connective c => connective c
  | .group inner => '(' :: (writeAll inner ++ [')'])

/-- The text of several shapes, one behind the other. -/
def writeAll : List (Shape β) → List Char
  | [] => []
  | shape :: rest => write shape ++ writeAll rest

end

theorem writeAll_append (first second : List (Shape β)) :
    writeAll connective leaf (first ++ second) =
      writeAll connective leaf first ++ writeAll connective leaf second := by
  induction first with
  | nil => rfl
  | cons shape rest ih => rw [List.cons_append, writeAll, writeAll, ih, List.append_assoc]

end Shape

namespace Node

variable {β : Type}

section Shapes

variable (view : Comparison → β)

mutual

/-- The shape of a node. -/
def shape : Node → Shape β
  | .comparison _ c => .leaf (view c)
  | .connective _ c => .connective c
  | .group _ children => .group (shapesAfter false children)

/-- The shapes of siblings, with an `&&` between adjacent operands; the flag says whether an operand stands
    right before them. -/
def shapesAfter (afterOperand : Bool) : List Node → List (Shape β)
  | [] => []
  | node :: rest =>
    (if afterOperand && node.isOperand then [.connective .and] else []) ++
      shape node :: shapesAfter node.isOperand rest

end

/-- The shapes of a list of siblings. -/
def shapes (nodes : List Node) : List (Shape β) :=
  shapesAfter view false nodes

end Shapes

section Every

variable (p : Comparison → Prop) (q : Connective → Prop)

mutual

/-- The comparisons and the connectives in a node have a property each. -/
def Every : Node → Prop
  | .comparison _ c => p c
  | .connective _ c => q c
  | .group _ children => EveryAmong children

/-- The comparisons and the connectives among siblings have a property each, in every group. -/
def EveryAmong : List Node → Prop
  | [] => True
  | node :: rest => Every node ∧ EveryAmong rest

end

end Every

end Node

namespace Spelling

variable {β : Type} {spelling : Spelling} {view : Comparison → β} {leaf : β → List Char}
  {p : Comparison → Prop} {q : Connective → Prop}

mutual

/-- A node is written as its shape, when the view of its comparisons tells their text. -/
theorem write_shape (reads : ∀ c, p c → spelling.comparison c = leaf (view c)) :
    ∀ {node : Node}, node.Every p q →
      spelling.write node = (node.shape view).write spelling.connective leaf
  | .comparison _ c, every => reads c every
  | .connective _ _, _ => rfl
  | .group _ children, every => by
      rw [write, Node.shape, Shape.write, writeAfter_shapes reads false every]

/-- Siblings are written as their shapes. -/
theorem writeAfter_shapes (reads : ∀ c, p c → spelling.comparison c = leaf (view c)) (afterOperand : Bool) :
    ∀ {nodes : List Node}, Node.EveryAmong p q nodes →
      spelling.writeAfter afterOperand nodes =
        Shape.writeAll spelling.connective leaf (Node.shapesAfter view afterOperand nodes)
  | [], _ => rfl
  | node :: rest, every => by
      rw [writeAfter, Node.shapesAfter, Shape.writeAll_append, Shape.writeAll, write_shape reads every.1,
        writeAfter_shapes reads node.isOperand every.2]
      cases afterOperand && node.isOperand with
      | false => rfl
      | true => rw [if_pos rfl, if_pos rfl, Shape.writeAll, Shape.writeAll, Shape.write, List.append_nil]

end

/-- A list of siblings is written as its shapes. -/
theorem writeAll_shapes (reads : ∀ c, p c → spelling.comparison c = leaf (view c)) {nodes : List Node}
    (every : Node.EveryAmong p q nodes) :
    spelling.writeAll nodes = Shape.writeAll spelling.connective leaf (Node.shapes view nodes) :=
  writeAfter_shapes reads false every

end Spelling

end FilterTree
