/-
Module: FilterTree.Proofs.Verdict.Chains
Layer: Proofs
Purpose: Verdicts one after the other. Between verdicts `&&` and `||` are associative, also where one of them is
  a fault, so expressions that are joined from the left have the verdict of the chain of theirs. What siblings
  mean therefore has the verdict of their terms, which are asked in order, up to the first that decides.
Imports: FilterTree.Proofs.Tree.Inheritance, FilterTree.Predicate.Eval
Main exports: Predicate.both, Predicate.either, Predicate.verdict_joinAll, Predicate.allTrue, Predicate.anyTrue,
  Predicate.verdict_meaning
-/
import FilterTree.Proofs.Tree.Inheritance
import FilterTree.Predicate.Eval

namespace FilterTree.Predicate

/-! ### Verdicts one after the other -/

/-- Two verdicts with an `&&` between them: where the first one is true, the second one decides. -/
def both (first second : Except Fault Bool) : Except Fault Bool := do
  let holds ← first
  if holds then second else .ok false

/-- Two verdicts with an `||` between them: where the first one is not true, the second one decides. -/
def either (first second : Except Fault Bool) : Except Fault Bool := do
  let holds ← first
  if holds then .ok true else second

instance : Std.Associative both where
  assoc first _ _ := by
    cases first with
    | error fault => rfl
    | ok holds => cases holds <;> rfl

instance : Std.Associative either where
  assoc first _ _ := by
    cases first with
    | error fault => rfl
    | ok holds => cases holds <;> rfl

/-- Nothing changes where a true verdict follows an `&&`. -/
instance : Std.LawfulIdentity both (.ok true) where
  left_id _ := rfl
  right_id verdict := by
    cases verdict with
    | error fault => rfl
    | ok holds => cases holds <;> rfl

/-- Nothing changes where an untrue verdict follows an `||`. -/
instance : Std.LawfulIdentity either (.ok false) where
  left_id _ := rfl
  right_id verdict := by
    cases verdict with
    | error fault => rfl
    | ok holds => cases holds <;> rfl

section Chains

variable (op : Except Fault Bool → Except Fault Bool → Except Fault Bool) [chain : Std.Associative op]
  (unit : Except Fault Bool) [neutral : Std.LawfulIdentity op unit]

/-- Two chains of verdicts, one behind the other, have the verdict that their two verdicts have. -/
theorem foldr_append_chain (first rest : List (Except Fault Bool)) :
    (first ++ rest).foldr op unit = op (first.foldr op unit) (rest.foldr op unit) := by
  induction first with
  | nil => exact (neutral.left_id _).symm
  | cons verdict first ih => rw [List.cons_append, List.foldr_cons, List.foldr_cons, ih, chain.assoc]

/-- Expressions joined from the left have the verdict of the chain of their verdicts. -/
theorem verdict_joinAll {join : Expr → Expr → Expr} {record : Value}
    (joins : ∀ left right, (join left right).verdict record = op (left.verdict record) (right.verdict record))
    {exprs : List Expr} (nonempty : exprs ≠ []) :
    (joinAll join exprs).verdict record = (exprs.map (·.verdict record)).foldr op unit := by
  obtain ⟨first, rest, rfl⟩ := List.exists_cons_of_ne_nil nonempty
  rw [joinAll, List.map_cons, List.foldr_cons]
  clear nonempty
  -- What is joined so far is one expression in front of the rest.
  induction rest generalizing first with
  | nil => exact (neutral.right_id _).symm
  | cons next rest ih => rw [List.foldl_cons, ih, joins, List.map_cons, List.foldr_cons, chain.assoc]

end Chains

section Record

variable (record : Value)

/-- An `&&` between expressions is one between their verdicts. -/
theorem verdict_and (left right : Expr) :
    (Expr.and left right).verdict record = both (left.verdict record) (right.verdict record) := by
  rw [Expr.verdict, Expr.eval, Expr.verdict, Expr.verdict]
  cases left.eval record with
  | error fault => rfl
  | ok first =>
      simp only [both, bind, Except.bind]
      cases first.isTrue with
      | false => rfl
      | true => cases right.eval record <;> rfl

/-- An `||` between expressions is one between their verdicts. -/
theorem verdict_or (left right : Expr) :
    (Expr.or left right).verdict record = either (left.verdict record) (right.verdict record) := by
  rw [Expr.verdict, Expr.eval, Expr.verdict, Expr.verdict]
  cases left.eval record with
  | error fault => rfl
  | ok first =>
      simp only [either, bind, Except.bind]
      cases first.isTrue with
      | false => cases right.eval record <;> rfl
      | true => rfl

/-- The verdict of a conjunction: its terms in order, up to the first that is not true. -/
def allTrue (terms : List Term) : Except Fault Bool :=
  (terms.map fun term => term.expr.verdict record).foldr both (.ok true)

/-- The verdict of conjunctions: they are asked in order, up to the first that is true. -/
def anyTrue (conjunctions : List (List Term)) : Except Fault Bool :=
  (conjunctions.map (allTrue record)).foldr either (.ok false)

theorem allTrue_single (term : Term) : allTrue record [term] = term.expr.verdict record := by
  have neutral : Std.LawfulIdentity both (.ok true) := inferInstance
  exact neutral.right_id _

theorem anyTrue_single (terms : List Term) : anyTrue record [terms] = allTrue record terms := by
  have neutral : Std.LawfulIdentity either (.ok false) := inferInstance
  exact neutral.right_id _

theorem allTrue_append (first rest : List Term) :
    allTrue record (first ++ rest) = both (allTrue record first) (allTrue record rest) := by
  rw [allTrue, List.map_append, foldr_append_chain]
  rfl

theorem anyTrue_append (first rest : List (List Term)) :
    anyTrue record (first ++ rest) = either (anyTrue record first) (anyTrue record rest) := by
  rw [anyTrue, List.map_append, foldr_append_chain]
  rfl

end Record

/-! ### The verdict of a meaning -/

/-- The verdict of what ordered siblings mean is that of their terms one after the other. -/
theorem verdict_meaning {nodes : List Node} (ordered : Ordered nodes) (record : Value) :
    (meaning nodes).verdict record = anyTrue record (conjunctions nodes) := by
  obtain ⟨present, filled⟩ := conjunctions_filled ordered
  have conjunction : ∀ terms ∈ conjunctions nodes,
      (joinAll .and (terms.map Term.expr)).verdict record = allTrue record terms := by
    intro terms hmem
    rw [verdict_joinAll both (.ok true) (verdict_and record) (mt List.map_eq_nil_iff.mp (filled terms hmem)),
      List.map_map]
    rfl
  have nonempty : (conjunctions nodes).map (fun terms => joinAll .and (terms.map Term.expr)) ≠ [] :=
    mt List.map_eq_nil_iff.mp present
  rw [meaning, disjunction, verdict_joinAll either (.ok false) (verdict_or record) nonempty, List.map_map, anyTrue]
  exact congrArg _ (List.map_congr_left conjunction)

end FilterTree.Predicate
