/-
Module: FilterTree.Proofs.Tree.Meaning
Layer: Proofs
Purpose: What a filter tree says, without any text. Four things are said about a list of siblings: whether its
  comparisons are clean, whether its connectives stand where they may, how many levels its deepest place
  takes, and the expression that it means. `!` reaches the operand right behind it, of a comparison with two
  sides the left side only; `&&` binds closer than `||`; both join from the left; a group means what its
  children mean.
Imports: FilterTree.Proofs.Grammar, FilterTree.Predicate.Text
Main exports: Comparison.Clean, Predicate.Clean, Predicate.Ordered, Predicate.levels, Predicate.meaning
-/
import FilterTree.Proofs.Grammar
import FilterTree.Predicate.Text

namespace FilterTree

open Predicate (IsSegment IsJoint)

/-- The levels that a question takes: one for what it compares, one more for each call around that and one for
    a negation. -/
def Check.levels : Check → Nat
  | .compared _ => 1
  | .constant _ _ => 1
  | .size _ => 2
  | .day _ => 2
  | .matching _ false => 3
  | .matching _ true => 4

/-- No question takes more levels than there are. -/
theorem Check.levels_le : ∀ check : Check, check.levels ≤ Predicate.maxLevels
  | .compared _ | .constant _ _ => (by decide : 1 ≤ Predicate.maxLevels)
  | .size _ | .day _ => (by decide : 2 ≤ Predicate.maxLevels)
  | .matching _ false => (by decide : 3 ≤ Predicate.maxLevels)
  | .matching _ true => (by decide : 4 ≤ Predicate.maxLevels)

/-! ### Clean comparisons -/

/-- A field that is a path: segments with joints between them. -/
inductive IsPath : List Char → Prop where
  | last {name : List Char} (named : IsSegment name) : IsPath name
  | step {name joint tail : List Char} (named : IsSegment name) (joined : IsJoint joint) (rest : IsPath tail) :
      IsPath (name ++ (joint ++ tail))

namespace Comparison

/-- The segments of a field, which stand between its points; the question marks belong to the joints. -/
def steps (comparison : Comparison) : List String :=
  (Text.splitOn '.' (comparison.field.toList.filter (· != '?'))).map String.ofList

/-- The field is a path and the value, where the operator looks at it, is no infinity and no NaN. -/
structure Clean (comparison : Comparison) : Prop where
  path : IsPath comparison.field.toList
  finite : Piece.value ∈ comparison.operator.pieces →
    ∀ number, comparison.value = .number number → number.isFinite = true

/-- The levels that the text of a comparison takes. -/
def levels (comparison : Comparison) : Nat :=
  comparison.operator.check.levels

end Comparison

namespace Predicate

mutual

/-- The comparisons of a node are clean. -/
def CleanNode : Node → Prop
  | .comparison _ comparison => comparison.Clean
  | .connective _ _ => True
  | .group _ children => Clean children

/-- The comparisons of siblings are clean, in every group. -/
def Clean : List Node → Prop
  | [] => True
  | node :: rest => CleanNode node ∧ Clean rest

end

/-! ### The order of siblings -/

/-- What counts of a node for the order of siblings. -/
inductive Mark where
  | operand
  | connective (connective : Connective)
deriving DecidableEq, Repr

/-- The mark of a node. -/
def mark : Node → Mark
  | .connective _ connective => .connective connective
  | _ => .operand

/-- The marks of siblings, with an `&&` between adjacent operands; the flag says whether an operand stands
    right before them. -/
def marks (afterOperand : Bool) : List Node → List Mark
  | [] => []
  | node :: rest =>
    (if afterOperand && node.isOperand then [.connective .and] else []) ++
      mark node :: marks node.isOperand rest

/-- A term: any number of `!` and then one operand. -/
inductive IsTerm : List Mark → Prop where
  | operand : IsTerm [.operand]
  | not {term : List Mark} (rest : IsTerm term) : IsTerm (.connective .not :: term)

/-- Terms with one `&&` or `||` between each two of them, and at least one term. -/
inductive IsSequence : List Mark → Prop where
  | last {term : List Mark} (first : IsTerm term) : IsSequence term
  | join {term rest : List Mark} {connective : Connective} (first : IsTerm term)
      (joined : connective = .and ∨ connective = .or) (others : IsSequence rest) :
      IsSequence (term ++ .connective connective :: rest)

mutual

/-- The children of a group are a sequence of terms, and so are those of every group below it. -/
def InOrder : Node → Prop
  | .group _ children => IsSequence (marks false children) ∧ GroupsOrdered children
  | _ => True

/-- The groups among siblings are in order. -/
def GroupsOrdered : List Node → Prop
  | [] => True
  | node :: rest => InOrder node ∧ GroupsOrdered rest

end

/-- Siblings are a sequence of terms, and so are the children of every group among and below them. -/
def Ordered (nodes : List Node) : Prop :=
  IsSequence (marks false nodes) ∧ GroupsOrdered nodes

/-! ### Levels -/

mutual

/-- The levels of an operand: those of a comparison, or one more than the children of a group take. -/
def operandLevels : Node → Nat
  | .comparison _ comparison => comparison.levels
  | .group _ children => 1 + levelsBehind 0 children
  | .connective _ _ => 0

/-- The most levels that a place among siblings takes, when `nots` negations stand right before them: one for
    each negation and for each group around the place, and those of the comparison there. -/
def levelsBehind (nots : Nat) : List Node → Nat
  | [] => 0
  | .connective _ .not :: rest => levelsBehind (nots + 1) rest
  | .connective _ _ :: rest => levelsBehind 0 rest
  | node :: rest => max (nots + operandLevels node) (levelsBehind 0 rest)

end

/-- The most levels that a place of a tree takes. -/
def levels (nodes : List Node) : Nat :=
  levelsBehind 0 nodes

/-! ### Meaning -/

/-- An operand with its negations: what they reach, and the relation and the right side that they do not
    reach. -/
structure Term where
  reached : Expr
  compared : Option (Relation × Expr)

namespace Term

/-- The expression of a term. -/
def expr (term : Term) : Expr :=
  match term.compared with
  | none => term.reached
  | some (relation, right) => .compare relation term.reached right

/-- A term behind one more negation. -/
def negated (term : Term) : Term :=
  { term with reached := .not term.reached }

/-- The term that an expression without parentheses is: of two sides a negation reaches the left one. -/
def ofExpr : Expr → Term
  | .compare relation left right => ⟨left, some (relation, right)⟩
  | expr => ⟨expr, none⟩

/-- Such a term is the expression again. -/
@[simp] theorem expr_ofExpr (expr : Expr) : (ofExpr expr).expr = expr := by
  cases expr <;> rfl

/-- The term of a comparison. -/
def ofComparison (comparison : Comparison) : Term :=
  ofExpr (comparison.operator.check.expr comparison.steps comparison.value)

/-- The term of a group, which is reached as a whole. -/
def ofGroup (expr : Expr) : Term :=
  ⟨expr, none⟩

end Term

/-- Adds a term in front of the first conjunction. -/
def prepend (term : Term) : List (List Term) → List (List Term)
  | [] => [[term]]
  | conjunction :: others => (term :: conjunction) :: others

/-- Negates the first term of the first conjunction. -/
def negateFirst : List (List Term) → List (List Term)
  | (term :: conjunction) :: others => (term.negated :: conjunction) :: others
  | conjunctions => conjunctions

/-- Expressions joined from the left. -/
def joinAll (join : Expr → Expr → Expr) : List Expr → Expr
  | [] => default
  | first :: rest => rest.foldl join first

/-- The expression of terms, conjunction by conjunction. -/
def disjunction (conjunctions : List (List Term)) : Expr :=
  joinAll .or (conjunctions.map fun terms => joinAll .and (terms.map Term.expr))

mutual

/-- The term of an operand. No connective is asked for one. -/
def operandTerm : Node → Term
  | .comparison _ comparison => .ofComparison comparison
  | .group _ children => .ofGroup (disjunction (conjunctions children))
  | .connective _ _ => .ofGroup default

/-- The terms of siblings, conjunction by conjunction: an `||` ends a conjunction. -/
def conjunctions : List Node → List (List Term)
  | [] => [[]]
  | .connective _ .not :: rest => negateFirst (conjunctions rest)
  | .connective _ .and :: rest => conjunctions rest
  | .connective _ .or :: rest => [] :: conjunctions rest
  | node :: rest => prepend (operandTerm node) (conjunctions rest)

end

/-- The expression that siblings mean. -/
def meaning (nodes : List Node) : Expr :=
  disjunction (conjunctions nodes)

end Predicate

end FilterTree
