/-
Module: FilterTree.Builder
Layer: Tree
Purpose: Building filter trees by hand. The builder numbers the nodes that it makes and names each after its
  kind and its number. A group takes its number before the connectives that it puts between its operands.
Imports: FilterTree.Node
Main exports: Builder, Builder.idOf, Builder.comparison, Builder.comparisonWithId, Builder.connective,
  Builder.Item, Builder.group
-/
import FilterTree.Node

namespace FilterTree

/-- A computation that may take numbers for new nodes; the state is the next free number. -/
abbrev Builder := StateM Nat

namespace Builder

/-- The number of the first node. -/
def firstNumber : Nat := 1

/-- The id of a kind and a number. What is written of a number is a word of 64 bits, so that behind the last
    word the ids begin again. -/
def idOf (kind : String) (number : Nat) : String :=
  kind ++ "-" ++ toString (number % UInt64.size)

/-- Takes the next number and makes an id of a kind with it. -/
def freshId (kind : String) : Builder String := fun number =>
  (idOf kind number, number + 1)

/-- A comparison under a given id, which takes no number. -/
def comparisonWithId (field : String) (operator : Operator) (value : Scalar) (id : String)
    (parent : Option String) : Node :=
  .comparison ⟨id, parent⟩ ⟨field, operator, value⟩

/-- A comparison under a new id. -/
def comparison (field : String) (operator : Operator) (value : Scalar) : Builder Node := do
  let id ← freshId "cmp"
  pure (comparisonWithId field operator value id none)

/-- The kind of a connective inside its id. -/
def connectiveKind : Connective → String
  | .and => "and"
  | .or => "or"
  | .not => "not"

/-- A connective under a new id. -/
def connective (symbol : Connective) : Builder Node := do
  let id ← freshId (connectiveKind symbol)
  pure (.connective ⟨id, none⟩ symbol)

/-- What a group may be made of: a node, or a run of nodes. -/
inductive Item where
  | node (node : Node)
  | run (nodes : List Node)

/-- The nodes of an item. -/
def Item.nodes : Item → List Node
  | .node single => [single]
  | .run several => several

/-- Nodes as the children of a group, with a new `and` before every operand that follows an operand. -/
def adopt (parent : String) (afterOperand : Bool) : List Node → Builder (List Node)
  | [] => pure []
  | node :: rest => do
    let joint ←
      if afterOperand && node.isOperand then do
        let implied ← connective .and
        pure [implied.withParent parent]
      else pure []
    let others ← adopt parent node.isOperand rest
    pure (joint ++ node.withParent parent :: others)

/-- A group of items under a new id. Runs are laid out in place. -/
def group (items : List Item) : Builder Node := do
  let id ← freshId "group"
  let children ← adopt id false (items.flatMap Item.nodes)
  pure (.group ⟨id, none⟩ children)

end Builder

end FilterTree
