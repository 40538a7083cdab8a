/-
Module: FilterTree.Predicate.Expr
Layer: Predicate
Purpose: The syntax trees of predicates over one record, and their equality, which can be decided.
Imports: FilterTree.Scalar
Main exports: Relation, Function, Expr, Expr.same, Expr.same_iff
-/
import FilterTree.Scalar

namespace FilterTree

/-- The six ways to compare two values. -/
inductive Relation where
  | eq
  | ne
  | gt
  | lt
  | ge
  | le
deriving DecidableEq, Repr

/-- The symbol that a relation is written with. -/
def Relation.symbol : Relation → String
  | .eq => "=="
  | .ne => "!="
  | .gt => ">"
  | .lt => "<"
  | .ge => ">="
  | .le => "<="

/-- The functions that a predicate may call. -/
inductive Function where
  | lower
  | startsWith
  | endsWith
  | contains
  | len
  | date
deriving DecidableEq, Repr

namespace Function

/-- The name that a function is called by. -/
def name : Function → String
  | .lower => "lower"
  | .startsWith => "starts_with"
  | .endsWith => "ends_with"
  | .contains => "contains"
  | .len => "len"
  | .date => "date"

/-- The number of arguments that a function takes. -/
def arity : Function → Nat
  | .lower => 1
  | .len => 1
  | .date => 1
  | .startsWith => 2
  | .endsWith => 2
  | .contains => 2

/-- Every function, each once. -/
def all : List Function := [.lower, .startsWith, .endsWith, .contains, .len, .date]

/-- The function of a name. -/
def ofName? (name : String) : Option Function :=
  all.find? fun function => function.name == name

end Function

/-- A predicate over one record, which `path` reads: no steps reach the record itself. -/
inductive Expr where
  | literal (value : Scalar)
  | path (steps : List String)
  | call (function : Function) (args : List Expr)
  | not (operand : Expr)
  | compare (relation : Relation) (left right : Expr)
  | and (left right : Expr)
  | or (left right : Expr)
deriving Repr, Inhabited

/-!
### Equality

Two expressions are equal when they have the same shape and the same leaves.
-/

namespace Expr

mutual

/-- Whether two expressions have the same shape and the same leaves. -/
def same : Expr → Expr → Bool
  | .literal x, .literal y => x == y
  | .path x, .path y => x == y
  | .call f xs, .call g ys => f == g && sameAll xs ys
  | .not x, .not y => same x y
  | .compare r x₁ x₂, .compare s y₁ y₂ => r == s && same x₁ y₁ && same x₂ y₂
  | .and x₁ x₂, .and y₁ y₂ => same x₁ y₁ && same x₂ y₂
  | .or x₁ x₂, .or y₁ y₂ => same x₁ y₁ && same x₂ y₂
  | _, _ => false

/-- Whether two lists of expressions agree one by one. -/
def sameAll : List Expr → List Expr → Bool
  | [], [] => true
  | x :: xs, y :: ys => same x y && sameAll xs ys
  | _, _ => false

end

mutual

/-- The test accepts an expression and itself, and no other pair. -/
theorem same_iff : ∀ a b : Expr, same a b = true ↔ a = b
  | .literal x, b => by cases b <;> simp [same]
  | .path x, b => by cases b <;> simp [same]
  | .call f xs, b => by cases b <;> simp [same, sameAll_iff xs]
  | .not x, b => by cases b <;> simp [same, same_iff x]
  | .compare r x₁ x₂, b => by cases b <;> simp [same, same_iff x₁, same_iff x₂, and_assoc]
  | .and x₁ x₂, b => by cases b <;> simp [same, same_iff x₁, same_iff x₂]
  | .or x₁ x₂, b => by cases b <;> simp [same, same_iff x₁, same_iff x₂]

/-- The test of lists accepts a list and itself, and no other pair. -/
theorem sameAll_iff : ∀ xs ys : List Expr, sameAll xs ys = true ↔ xs = ys
  | [], ys => by cases ys <;> simp [sameAll]
  | x :: xs, ys => by cases ys <;> simp [sameAll, same_iff x, sameAll_iff xs]

end

instance : DecidableEq Expr := fun a b => decidable_of_iff _ (same_iff a b)

end Expr

end FilterTree
