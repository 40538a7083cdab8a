/-
Module: FilterTree.Proofs.Tree.Inheritance
Layer: Proofs
Purpose: Properties that the meaning of a tree has from its comparisons. What a connective makes of expressions
  keeps such a property, so if the expression of every comparison has it, the expression of the whole tree has
  it too, whatever connectives stand between them. Only siblings that are out of order may leave a conjunction
  without terms, and then the blank expression in its place has to have the property as well.
Imports: FilterTree.Proofs.Tree.Shape, FilterTree.Proofs.Tree.Splicing
Main exports: Predicate.conjunctions_filled, Predicate.Inherited, Predicate.Inherited.of_meaning
-/
import FilterTree.Proofs.Tree.Shape
import FilterTree.Proofs.Tree.Splicing

namespace FilterTree.Predicate

/-! ### Conjunctions without terms -/

/-- Behind the first conjunction, which may hold nothing where a term stands right before it, every conjunction
    of siblings that go on to behind a term holds a term. -/
theorem Spans.conjunctions_filled : ∀ {behind : Bool} {nodes : List Node}, Spans behind nodes true →
    ∃ terms others, conjunctions nodes = terms :: others ∧ (behind = false → terms ≠ []) ∧
      ∀ held ∈ others, held ≠ []
  | _, _, .nothing _ => ⟨[], [], rfl, (nomatch ·), fun _ h => nomatch h⟩
  | _, _, .operand hnode behindOperand => by
      obtain ⟨terms, others, hrest, -, filled⟩ := behindOperand.conjunctions_filled
      exact ⟨_ :: terms, others, by rw [conjunctions_operand hnode, hrest, prepend],
        fun _ => List.cons_ne_nil _ _, filled⟩
  | _, _, .not negated behindNot => by
      obtain ⟨terms, others, hrest, first, filled⟩ := behindNot.conjunctions_filled
      obtain ⟨term, terms, rfl⟩ := List.exists_cons_of_ne_nil (first rfl)
      exact ⟨term.negated :: terms, others, by rw [conjunctions, hrest, negateFirst],
        fun _ => List.cons_ne_nil _ _, filled⟩
  | _, _, .joint (.inl rfl) behindJoint => by
      obtain ⟨terms, others, hrest, -, filled⟩ := behindJoint.conjunctions_filled
      exact ⟨terms, others, hrest, (nomatch ·), filled⟩
  | _, _, .joint (.inr rfl) behindJoint => by
      obtain ⟨terms, others, hrest, first, filled⟩ := behindJoint.conjunctions_filled
      refine ⟨[], terms :: others, by rw [conjunctions, hrest], (nomatch ·), ?_⟩
      exact List.forall_mem_cons.mpr ⟨first rfl, filled⟩

/-- Ordered siblings have a conjunction, and every conjunction has a term. -/
theorem conjunctions_filled {nodes : List Node} (ordered : Ordered nodes) :
    conjunctions nodes ≠ [] ∧ ∀ terms ∈ conjunctions nodes, terms ≠ [] := by
  obtain ⟨terms, others, hterms, first, filled⟩ := (ordered_iff.mp ordered).1.conjunctions_filled
  rw [hterms, List.forall_mem_cons]
  exact ⟨List.cons_ne_nil _ _, first rfl, filled⟩

/-! ### Properties of expressions -/

/-- A property of expressions that a whole tree has from comparisons with the property `q`: what such a comparison
    asks has it, and every connective keeps it. A negation stands on the left side of a term. -/
structure Inherited (q : Comparison → Prop) (p : Expr → Prop) : Prop where
  asked : ∀ {comparison : Comparison}, q comparison →
    p (comparison.operator.check.expr comparison.steps comparison.value)
  negated : ∀ {term : Term}, p term.expr → p term.negated.expr
  and : ∀ {left right : Expr}, p left → p right → p (.and left right)
  or : ∀ {left right : Expr}, p left → p right → p (.or left right)

/-- The property holds of the terms of some conjunctions. -/
def OfTerms (p : Expr → Prop) (conjunctions : List (List Term)) : Prop :=
  ∀ terms ∈ conjunctions, ∀ term ∈ terms, p term.expr

/-- Joining keeps the property. -/
theorem of_joinAll {p : Expr → Prop} {join : Expr → Expr → Expr}
    (joins : ∀ {left right : Expr}, p left → p right → p (join left right)) {exprs : List Expr}
    (blank : exprs = [] → p default) (each : ∀ expr ∈ exprs, p expr) : p (joinAll join exprs) := by
  cases exprs with
  | nil => exact blank rfl
  | cons first rest =>
      rw [List.forall_mem_cons] at each
      obtain ⟨hfirst, hrest⟩ := each
      rw [joinAll]
      clear blank
      induction rest generalizing first with
      | nil => exact hfirst
      | cons second others ih =>
          rw [List.forall_mem_cons] at hrest
          exact ih (join first second) (joins hfirst hrest.1) hrest.2

theorem OfTerms.prepend {p : Expr → Prop} {term : Term} (first : p term.expr) {conjunctions : List (List Term)}
    (each : OfTerms p conjunctions) : OfTerms p (prepend term conjunctions) := by
  cases conjunctions with
  | nil => simpa [OfTerms, Predicate.prepend] using first
  | cons terms others =>
      rw [OfTerms, List.forall_mem_cons] at each
      simp only [OfTerms, Predicate.prepend, List.forall_mem_cons]
      exact ⟨⟨first, each.1⟩, each.2⟩

namespace Inherited

variable {q : Comparison → Prop} {p : Expr → Prop} (inherited : Inherited q p)

include inherited

theorem of_negateFirst {conjunctions : List (List Term)} (each : OfTerms p conjunctions) :
    OfTerms p (negateFirst conjunctions) := by
  match conjunctions with
  | [] | [] :: _ => exact each
  | (term :: terms) :: others =>
      simp only [OfTerms, Predicate.negateFirst, List.forall_mem_cons] at each ⊢
      exact ⟨⟨inherited.negated each.1.1, each.1.2⟩, each.2⟩

/-- An expression has the property from its terms. -/
theorem of_disjunction {nodes : List Node} (blank : ¬ Ordered nodes → p default)
    (each : OfTerms p (conjunctions nodes)) : p (disjunction (conjunctions nodes)) := by
  refine of_joinAll inherited.or (fun none => blank fun ordered => ?_) fun expr hmem => ?_
  · exact (conjunctions_filled ordered).1 (List.map_eq_nil_iff.mp none)
  obtain ⟨terms, hterms, rfl⟩ := List.mem_map.mp hmem
  refine of_joinAll inherited.and (fun none => blank fun ordered => ?_) fun expr hmem => ?_
  · exact (conjunctions_filled ordered).2 terms hterms (List.map_eq_nil_iff.mp none)
  obtain ⟨term, hterm, rfl⟩ := List.mem_map.mp hmem
  exact each terms hterms term hterm

mutual

/-- The term of an operand has the property from its comparisons. -/
theorem of_operandTerm : ∀ node : Node, node.isOperand = true → node.Every q (fun _ => True) →
    (¬ InOrder node → p default) → p (operandTerm node).expr
  | .comparison _ comparison, _, every, _ => by
      rw [operandTerm, Term.ofComparison, Term.expr_ofExpr]
      exact inherited.asked every
  | .group _ children, _, every, blank => by
      rw [operandTerm]
      exact inherited.of_disjunction blank (of_conjunctions children every fun bad => blank (mt And.right bad))

/-- So have the terms of siblings. -/
theorem of_conjunctions : ∀ nodes : List Node, Node.EveryAmong q (fun _ => True) nodes →
    (¬ GroupsOrdered nodes → p default) → OfTerms p (conjunctions nodes)
  | [], _, _ => by simp [OfTerms, conjunctions]
  | .connective _ .not :: rest, ⟨_, others⟩, blank =>
      inherited.of_negateFirst (of_conjunctions rest others fun bad => blank (mt And.right bad))
  | .connective _ .and :: rest, ⟨_, others⟩, blank =>
      of_conjunctions rest others fun bad => blank (mt And.right bad)
  | .connective _ .or :: rest, ⟨_, others⟩, blank =>
      List.forall_mem_cons.mpr
        ⟨List.forall_mem_nil _, of_conjunctions rest others fun bad => blank (mt And.right bad)⟩
  | .comparison label comparison :: rest, ⟨first, others⟩, blank =>
      .prepend (of_operandTerm (.comparison label comparison) rfl first fun bad => blank (mt And.left bad))
        (of_conjunctions rest others fun bad => blank (mt And.right bad))
  | .group label children :: rest, ⟨first, others⟩, blank =>
      .prepend (of_operandTerm (.group label children) rfl first fun bad => blank (mt And.left bad))
        (of_conjunctions rest others fun bad => blank (mt And.right bad))

end

/-- What siblings mean has the property from their comparisons. -/
theorem of_meaning {nodes : List Node} (blank : ¬ Ordered nodes → p default)
    (every : Node.EveryAmong q (fun _ => True) nodes) : p (meaning nodes) :=
  inherited.of_disjunction blank (inherited.of_conjunctions nodes every fun bad => blank (mt And.right bad))

end Inherited

end FilterTree.Predicate
