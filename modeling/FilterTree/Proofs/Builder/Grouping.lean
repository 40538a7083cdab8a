/-
Module: FilterTree.Proofs.Builder.Grouping
Layer: Proofs
Purpose: What the builder makes of the items of a group. The nodes of the items, one behind the other, become the
  children, and the `&&`s that are put between neighbouring operands are those that the tree would imply anyway.
  So the group is written as its nodes are, in parentheses, in a predicate and in a remote query alike.
Imports: Mathlib.Data.List.Chain, FilterTree.Builder, FilterTree.Proofs.Tree.Tokens
Main exports: Builder.impliedAnd, Builder.Joined, Builder.adopt_joined, Builder.group_run, Builder.Joined.tokensAll,
  Builder.group_joins
-/
import Mathlib.Data.List.Chain
import FilterTree.Builder
import FilterTree.Proofs.Tree.Tokens

namespace FilterTree

/-! ### Nodes under another parent -/

namespace Node

variable (parent : String) (node : Node)

@[simp] theorem withParent_label : (node.withParent parent).label = ⟨node.label.id, some parent⟩ := by
  cases node <;> rfl

@[simp] theorem withParent_children : (node.withParent parent).children = node.children := by
  cases node <;> rfl

@[simp] theorem withParent_isOperand : (node.withParent parent).isOperand = node.isOperand := by
  cases node <;> rfl

@[simp] theorem withParent_tokens : (node.withParent parent).tokens = node.tokens := by
  cases node <;> rfl

/-- In front of siblings that are written alike, a node is written alike under another parent. -/
theorem tokensAll_withParent_cons {rest others : List Node} (begins : beginOperand rest = beginOperand others)
    (behind : tokensAll rest = tokensAll others) :
    tokensAll (node.withParent parent :: rest) = tokensAll (node :: others) :=
  tokensAll_cons_congr (node.withParent_tokens parent) (node.withParent_isOperand parent) begins behind

end Node

namespace Builder

/-- The `&&` with a number that a group puts between two operands. -/
def impliedAnd (parent : String) (number : Nat) : Node :=
  .connective ⟨idOf "and" number, some parent⟩ .and

/-- Nodes as the children of a group: each stands under the group and is otherwise as it was, an `&&` with the
    next number stands between two neighbours that are operands, and nothing else is there. The numbers are the
    first one that is free before and the first one that is free behind. -/
inductive Joined (parent : String) : Nat → List Node → List Node → Nat → Prop where
  | nil {number : Nat} : Joined parent number [] [] number
  | single {number : Nat} (node : Node) : Joined parent number [node] [node.withParent parent] number
  | apart {number next : Nat} {left right : Node} {rest children : List Node}
      (connected : ¬(left.isOperand = true ∧ right.isOperand = true))
      (behind : Joined parent number (right :: rest) children next) :
      Joined parent number (left :: right :: rest) (left.withParent parent :: children) next
  | between {number next : Nat} {left right : Node} {rest children : List Node}
      (operands : left.isOperand = true ∧ right.isOperand = true)
      (behind : Joined parent (number + 1) (right :: rest) children next) :
      Joined parent number (left :: right :: rest)
        (left.withParent parent :: impliedAnd parent number :: children) next

/-! ### The children of a group -/

section Adopt

variable (parent : String)

/-- Behind an operand an operand comes with an `&&` in front of it, which takes the next number. -/
theorem adopt_operand (node : Node) (rest : List Node) (number : Nat) (operand : node.isOperand = true) :
    (adopt parent true (node :: rest)).run number =
      (impliedAnd parent number :: ((adopt parent false (node :: rest)).run (number + 1)).1,
        ((adopt parent false (node :: rest)).run (number + 1)).2) := by
  simp only [adopt, operand]
  rfl

/-- Behind a connective, or in front of one, nothing is put between. -/
theorem adopt_apart (afterOperand : Bool) (node : Node) (rest : List Node) (number : Nat)
    (connected : (afterOperand && node.isOperand) = false) :
    (adopt parent afterOperand (node :: rest)).run number =
      (node.withParent parent :: ((adopt parent node.isOperand rest).run number).1,
        ((adopt parent node.isOperand rest).run number).2) := by
  simp only [adopt, connected]
  rfl

/-- The children of a group are its nodes, joined. -/
theorem adopt_joined (nodes : List Node) (number : Nat) :
    Joined parent number nodes ((adopt parent false nodes).run number).1
      ((adopt parent false nodes).run number).2 := by
  induction nodes generalizing number with
  | nil => exact .nil
  | cons left rest ih =>
      rw [adopt_apart parent false left rest number rfl]
      cases rest with
      | nil => exact .single left
      | cons right rest =>
          cases operands : left.isOperand && right.isOperand with
          | true =>
              rw [Bool.and_eq_true] at operands
              rw [operands.1, adopt_operand parent right rest number operands.2]
              exact .between operands (ih (number + 1))
          | false =>
              have connected : ¬(left.isOperand = true ∧ right.isOperand = true) := by
                rw [← Bool.and_eq_true, operands]
                exact Bool.false_ne_true
              rw [adopt_apart parent left.isOperand right rest number operands,
                ← adopt_apart parent false right rest number rfl]
              exact .apart connected (ih number)

end Adopt

/-- A group takes the next number, and then joins the nodes of its items. -/
theorem group_run (items : List Item) (number : Nat) :
    ∃ children next, (group items).run number = (.group ⟨idOf "group" number, none⟩ children, next) ∧
      Joined (idOf "group" number) (number + 1) (items.flatMap Item.nodes) children next :=
  ⟨_, _, rfl, adopt_joined _ _ _⟩

/-! ### What joining keeps -/

namespace Joined

variable {parent : String} {number next : Nat} {nodes children : List Node}

/-- The children begin with an operand when the nodes do. -/
theorem beginOperand (joined : Joined parent number nodes children next) :
    Node.beginOperand children = Node.beginOperand nodes := by
  cases joined with
  | nil => rfl
  | single node => exact node.withParent_isOperand parent
  | @apart _ _ left => exact left.withParent_isOperand parent
  | @between _ _ left => exact left.withParent_isOperand parent

/-- The children are written as the nodes are. -/
theorem tokensAll (joined : Joined parent number nodes children next) :
    Node.tokensAll children = Node.tokensAll nodes := by
  induction joined with
  | nil => rfl
  | single node => exact node.tokensAll_withParent_cons parent rfl rfl
  | @apart number next left right rest children connected behind ih =>
      exact left.tokensAll_withParent_cons parent behind.beginOperand ih
  | @between number next left right rest children operands behind ih =>
      have begins : Node.beginOperand children = true := behind.beginOperand.trans operands.2
      have before : (left.withParent parent).isOperand = true := by rw [left.withParent_isOperand, operands.1]
      rw [impliedAnd, Node.tokensAll_and _ before begins]
      exact left.tokensAll_withParent_cons parent behind.beginOperand ih

/-- No two children that are neighbours are operands. -/
theorem alternate (joined : Joined parent number nodes children next) :
    children.IsChain fun left right => ¬(left.isOperand = true ∧ right.isOperand = true) := by
  induction joined with
  | nil => exact .nil
  | single node => exact .singleton _
  | @apart number next left right rest children connected behind ih =>
      refine List.isChain_cons.mpr ⟨fun child first operands => connected ?_, ih⟩
      have begins : Node.beginOperand children = child.isOperand := by rw [Node.beginOperand, first, Option.any_some]
      rw [left.withParent_isOperand, ← begins, behind.beginOperand] at operands
      exact operands
  | @between number next left right rest children operands behind ih =>
      have connective : ¬(impliedAnd parent number).isOperand = true := Bool.false_ne_true
      have front := List.isChain_cons.mpr ⟨fun child _ both => connective both.1, ih⟩
      exact .cons_cons (fun both => connective both.2) front

end Joined

/-- A group of items, cut into nodes and runs in any way. Its children are the nodes of the items in their order,
    each under the group and otherwise as it was, with an `&&` exactly between the neighbours that are operands;
    no two operands are left side by side. The group is written as these nodes are, in parentheses, in a
    predicate and in a remote query. The cuts between the items do not matter. -/
theorem group_joins (items : List Item) (number : Nat) :
    ∃ id children next,
      (group items).run number = (.group ⟨id, none⟩ children, next) ∧
      Joined id (number + 1) (items.flatMap Item.nodes) children next ∧
      (children.IsChain fun left right => ¬(left.isOperand = true ∧ right.isOperand = true)) ∧
      (Predicate.text [.group ⟨id, none⟩ children] = "(" ++ Predicate.text (items.flatMap Item.nodes) ++ ")" ∧
        Query.filterText [.group ⟨id, none⟩ children] =
          "(" ++ Query.filterText (items.flatMap Item.nodes) ++ ")") ∧
      ∀ other : List Item, other.flatMap Item.nodes = items.flatMap Item.nodes → group other = group items := by
  obtain ⟨children, next, made, joined⟩ := group_run items number
  obtain ⟨predicate, query⟩ := Node.texts_of_tokens joined.tokensAll
  refine ⟨_, children, next, made, joined, joined.alternate, ⟨?_, ?_⟩, ?_⟩
  · rw [← predicate]
    exact Predicate.spelling.writeAll_group _ children
  · rw [← query]
    exact Query.spelling.writeAll_group _ children
  · intro other same
    rw [group, group, same]

end Builder

end FilterTree
