/-
Module: FilterTree.Node
Layer: Tree
Purpose: Filter trees. A node is a comparison, a connective that stands among its siblings, or a group that
  holds a list of nodes; every node has an id and may name its parent.
Imports: FilterTree.Operator
Main exports: Label, Comparison, Node, Node.same, Node.same_iff, Node.isOperand, Node.outline
-/
import FilterTree.Operator

namespace FilterTree

/-- How a node is known: by its own id and, inside a group, by the id of the group. -/
structure Label where
  id : String
  parent : Option String
deriving DecidableEq, Repr

/-- A condition on one field of a record. -/
structure Comparison where
  field : String
  operator : Operator
  value : Scalar
deriving DecidableEq, Repr

/-- A node of a filter tree. -/
inductive Node where
  | comparison (label : Label) (comparison : Comparison)
  | connective (label : Label) (connective : Connective)
  | group (label : Label) (children : List Node)
deriving Repr

instance : Inhabited Node := ⟨.group ⟨"", none⟩ []⟩

namespace Node

/-- The label of a node. -/
def label : Node → Label
  | .comparison label _ => label
  | .connective label _ => label
  | .group label _ => label

/-- The same node under another parent. -/
def withParent (parent : String) : Node → Node
  | .comparison label c => .comparison { label with parent := some parent } c
  | .connective label c => .connective { label with parent := some parent } c
  | .group label children => .group { label with parent := some parent } children

/-- The direct children of a node. -/
def children : Node → List Node
  | .group _ children => children
  | _ => []

/-- Comparisons and groups are operands; a connective is none. -/
def isOperand : Node → Bool
  | .connective _ _ => false
  | _ => true

/-!
### Equality

Two nodes are equal when they agree in kind, label and content, all the way down.
-/

mutual

/-- Whether two nodes agree all the way down. -/
def same : Node → Node → Bool
  | .comparison l x, .comparison m y => l == m && x == y
  | .connective l x, .connective m y => l == m && x == y
  | .group l xs, .group m ys => l == m && sameAll xs ys
  | _, _ => false

/-- Whether two lists of nodes agree one by one. -/
def sameAll : List Node → List Node → Bool
  | [], [] => true
  | x :: xs, y :: ys => same x y && sameAll xs ys
  | _, _ => false

end

mutual

/-- The test accepts a node and itself, and no other pair. -/
theorem same_iff : ∀ a b : Node, same a b = true ↔ a = b
  | .comparison l x, b => by cases b <;> simp [same]
  | .connective l x, b => by cases b <;> simp [same]
  | .group l xs, b => by cases b <;> simp [same, sameAll_iff xs]

/-- The test of lists accepts a list and itself, and no other pair. -/
theorem sameAll_iff : ∀ xs ys : List Node, sameAll xs ys = true ↔ xs = ys
  | [], ys => by cases ys <;> simp [sameAll]
  | x :: xs, ys => by cases ys <;> simp [sameAll, same_iff x, sameAll_iff xs]

end

instance : DecidableEq Node := fun a b => decidable_of_iff _ (same_iff a b)

/-!
### Outlines

An outline lists the nodes of a tree from the top down, a group before its children, each with its depth.
-/

mutual

/-- The outline of one node at a depth. -/
def outline (depth : Nat) : Node → List (Nat × Node)
  | .group label children => (depth, .group label children) :: outlineAll (depth + 1) children
  | node => [(depth, node)]

/-- The outline of siblings at a depth. -/
def outlineAll (depth : Nat) : List Node → List (Nat × Node)
  | [] => []
  | node :: rest => outline depth node ++ outlineAll depth rest

end

end Node

end FilterTree
