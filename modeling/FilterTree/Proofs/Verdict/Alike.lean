/-
Module: FilterTree.Proofs.Verdict.Alike
Layer: Proofs
Purpose: Two runs of one expression on two records. Operands are alike when they are the same, or two numbers
  that are equal or both a NaN, or two lists of one length, whatever stands in them. No relation tells alike
  operands apart, no function and no truth value, so where every path of an expression has alike operands on two
  records, both runs take the same way through the expression and end alike: with the same fault, or with alike
  operands.
Imports: FilterTree.Proofs.Grammar.Tokens, FilterTree.Proofs.Verdict.Relations, FilterTree.Predicate.Eval
Main exports: Number.Alike, Operand.Alike, Relation.holds_alike, Function.apply_alike, Expr.paths,
  Expr.eval_alike, Expr.verdict_alike
-/
import FilterTree.Proofs.Grammar.Tokens
import FilterTree.Proofs.Verdict.Relations
import FilterTree.Predicate.Eval

namespace FilterTree

open Predicate (Fault)

/-! ### Numbers -/

namespace Number

/-- Two numbers that are equal, or both a NaN. -/
def Alike (x y : Number) : Prop :=
  x.same y = true ∨ (x = .nan ∧ y = .nan)

/-- Only a NaN has no place. -/
theorem place_eq_none_iff {x : Number} : x.place = none ↔ x = .nan := by
  cases x <;> simp [place]

/-- Numbers are alike when they have one place, or none. -/
theorem alike_iff {x y : Number} : x.Alike y ↔ x.place = y.place := by
  rw [Alike, same, compare?, ← place_eq_none_iff, ← place_eq_none_iff]
  cases x.place <;> cases y.place <;> simp

/-- A number counts as true when it has a place other than zero. -/
theorem isTrue_eq_place (x : Number) : x.isTrue = x.place.any (· != 0) := by
  cases x with
  | nan => rfl
  | infinity negative => cases negative <;> decide
  | finite negative rank => cases negative <;> simp [isTrue, place, bne]

end Number

/-! ### Operands -/

namespace Operand

/-- Two operands that are the same, or alike as numbers, or lists of one length. -/
inductive Alike : Operand → Operand → Prop where
  | same (a : Operand) : Alike a a
  | numbers {x y : Number} (alike : x.Alike y) : Alike (.number x) (.number y)
  | lists {items others : List Operand} (sameLength : items.length = others.length) :
      Alike (.list items) (.list others)

variable {a b c d : Operand}

theorem Alike.symm (alike : a.Alike b) : b.Alike a := by
  cases alike with
  | same => exact .same a
  | numbers alike => exact .numbers (Number.alike_iff.mpr (Number.alike_iff.mp alike).symm)
  | lists sameLength => exact .lists sameLength.symm

theorem Alike.trans (first : a.Alike b) (second : b.Alike c) : a.Alike c := by
  cases first with
  | same => exact second
  | numbers alike =>
      cases second with
      | same => exact .numbers alike
      | numbers other =>
          exact .numbers (Number.alike_iff.mpr ((Number.alike_iff.mp alike).trans (Number.alike_iff.mp other)))
  | lists sameLength =>
      cases second with
      | same => exact .lists sameLength
      | lists other => exact .lists (sameLength.trans other)

/-- Alike operands count as the same truth value. -/
theorem Alike.isTrue_eq (alike : a.Alike b) : a.isTrue = b.isTrue := by
  cases alike with
  | same => rfl
  | @numbers x y alike =>
      have places := Number.alike_iff.mp alike
      rw [isTrue, isTrue, x.isTrue_eq_place, y.isTrue_eq_place, places]
  | lists => rfl

/-- Alike operands are ordered to another one alike. -/
theorem Alike.order?_left (alike : a.Alike b) (c : Operand) : a.order? c = b.order? c := by
  cases alike with
  | same => rfl
  | @numbers x y alike =>
      have mixed : ∀ z : Number, Mixed (.number z) c := by
        intro z
        constructor <;> exact fun _ _ h => nomatch h
      rw [order?_of_mixed (mixed x), order?_of_mixed (mixed y), numberOrder?, numberOrder?]
      cases c.number? with
      | none => rfl
      | some z => simp only [number?, Number.compare?, Number.alike_iff.mp alike]
  | lists => cases c <;> rfl

/-- Alike operands have the same order. -/
theorem order?_alike (left : a.Alike b) (right : c.Alike d) : a.order? c = b.order? d := by
  rw [left.order?_left c, order?_swap c b, right.order?_left b, ← order?_swap]

/-- Alike operands equal the same operands. -/
theorem Alike.looseEq_left (alike : a.Alike b) (c : Operand) : a.looseEq c = b.looseEq c := by
  have order := alike.order?_left c
  cases alike with
  | same => rfl
  | numbers | lists => rw [looseEq_eq_order? rfl, looseEq_eq_order? rfl, order]

/-- Alike operands are equal alike. -/
theorem looseEq_alike (left : a.Alike b) (right : c.Alike d) : a.looseEq c = b.looseEq d := by
  rw [left.looseEq_left c, looseEq_comm b c, right.looseEq_left b, looseEq_comm d b]

end Operand

/-- No relation tells alike operands apart. -/
theorem Relation.holds_alike {a b c d : Operand} (left : a.Alike b) (right : c.Alike d) (relation : Relation) :
    relation.holds a c = relation.holds b d := by
  cases relation <;> simp only [holds, Operand.looseEq_alike left right, Operand.order?_alike left right]

/-- The arguments at one position are alike, also behind the last. -/
theorem Operand.getD_alike {args others : List Operand} (alike : List.Forall₂ Operand.Alike args others)
    (index : Nat) : (args.getD index .undefined).Alike (others.getD index .undefined) := by
  induction alike generalizing index with
  | nil => exact .same _
  | cons head tail ih =>
      cases index with
      | zero => exact head
      | succ index => exact ih index

/-- No function looks into a number, and of a list none sees more than the length: on alike arguments it has one
    value, or one fault. -/
theorem Function.apply_alike (function : Function) {args others : List Operand}
    (alike : List.Forall₂ Operand.Alike args others) : function.apply args = function.apply others := by
  unfold apply
  have subjects := Operand.getD_alike alike 0
  have patterns := Operand.getD_alike alike 1
  generalize args.getD 0 .undefined = subject, others.getD 0 .undefined = subject' at subjects
  generalize args.getD 1 .undefined = pattern, others.getD 1 .undefined = pattern' at patterns
  cases subjects with
  | numbers => cases function <;> rfl
  | lists sameLength =>
      cases function with
      | len => simp only [sameLength]
      | lower | date | startsWith | endsWith | contains => rfl
  | same =>
      cases patterns with
      | same => rfl
      | numbers | lists => cases function <;> rfl

/-! ### Outcomes -/

namespace Predicate

/-- Two outcomes that are the same fault, or results in a relation. -/
inductive EndsAlike {α : Type} (related : α → α → Prop) : Except Fault α → Except Fault α → Prop where
  | ok {a b : α} (results : related a b) : EndsAlike related (.ok a) (.ok b)
  | error (fault : Fault) : EndsAlike related (.error fault) (.error fault)

/-- What goes on alike from related results ends alike. -/
theorem EndsAlike.bind {α β : Type} {R : α → α → Prop} {S : β → β → Prop} {x y : Except Fault α}
    {f g : α → Except Fault β} (alike : EndsAlike R x y) (next : ∀ a b, R a b → EndsAlike S (f a) (g b)) :
    EndsAlike S (x >>= f) (y >>= g) := by
  cases alike with
  | ok results => exact next _ _ results
  | error fault => exact .error fault

/-- Outcomes that are alike up to equality are the same. -/
theorem EndsAlike.eq {α : Type} {x y : Except Fault α} (alike : EndsAlike Eq x y) : x = y := by
  cases alike with
  | ok results => rw [results]
  | error => rfl

/-- An outcome is alike to itself. -/
theorem EndsAlike.refl {α : Type} {R : α → α → Prop} (reflexive : ∀ a, R a a) (x : Except Fault α) :
    EndsAlike R x x := by
  cases x with
  | ok a => exact .ok (reflexive a)
  | error fault => exact .error fault

end Predicate

open Predicate (EndsAlike)

/-! ### Two runs -/

namespace Expr

mutual

/-- The paths of an expression, from left to right. -/
def paths : Expr → List (List String)
  | .literal _ => []
  | .path names => [names]
  | .call _ args => pathsAll args
  | .not operand => operand.paths
  | .compare _ left right | .and left right | .or left right => left.paths ++ right.paths

/-- The paths of several expressions. -/
def pathsAll : List Expr → List (List String)
  | [] => []
  | arg :: args => arg.paths ++ pathsAll args

end

variable {first second : Value}

/-- What two records have at some paths are alike operands. -/
def AlikeAt (first second : Value) (paths : List (List String)) : Prop :=
  ∀ names ∈ paths, (first.resolve names).Alike (second.resolve names)

theorem AlikeAt.of_append {some more : List (List String)} (alike : AlikeAt first second (some ++ more)) :
    AlikeAt first second some ∧ AlikeAt first second more :=
  List.forall_mem_append.mp alike

mutual

/-- Both runs of an expression end alike. -/
theorem eval_alike : ∀ expr : Expr, AlikeAt first second expr.paths →
    EndsAlike Operand.Alike (expr.eval first) (expr.eval second)
  | .literal value, _ => .ok (.same _)
  | .path names, alike => .ok (alike names (List.mem_singleton_self names))
  | .call function args, alike => by
      refine (evalAll_alike args alike).bind fun operands others same => ?_
      rw [function.apply_alike same]
      exact .refl .same _
  | .not operand, alike => by
      refine (eval_alike operand alike).bind fun a b same => ?_
      rw [same.isTrue_eq]
      exact .ok (.same _)
  | .compare relation left right, alike => by
      refine (eval_alike left alike.of_append.1).bind fun a b lefts => ?_
      refine (eval_alike right alike.of_append.2).bind fun c d rights => ?_
      rw [relation.holds_alike lefts rights]
      exact .ok (.same _)
  | .and left right, alike => by
      refine (eval_alike left alike.of_append.1).bind fun a b lefts => ?_
      rw [lefts.isTrue_eq]
      split
      · refine (eval_alike right alike.of_append.2).bind fun c d rights => ?_
        rw [rights.isTrue_eq]
        exact .ok (.same _)
      · exact .ok (.same _)
  | .or left right, alike => by
      refine (eval_alike left alike.of_append.1).bind fun a b lefts => ?_
      rw [lefts.isTrue_eq]
      split
      · exact .ok (.same _)
      · refine (eval_alike right alike.of_append.2).bind fun c d rights => ?_
        rw [rights.isTrue_eq]
        exact .ok (.same _)

/-- Both runs of several expressions end alike, one by one. -/
theorem evalAll_alike : ∀ args : List Expr, AlikeAt first second (pathsAll args) →
    EndsAlike (List.Forall₂ Operand.Alike) (evalAll first args) (evalAll second args)
  | [], _ => .ok .nil
  | arg :: args, alike => by
      refine (eval_alike arg alike.of_append.1).bind fun a b heads => ?_
      exact (evalAll_alike args alike.of_append.2).bind fun rest others tails => .ok (.cons heads tails)

end

/-- Where the paths of an expression have alike operands on two records, its verdict or its fault is the same. -/
theorem verdict_alike {expr : Expr} (alike : AlikeAt first second expr.paths) :
    expr.verdict first = expr.verdict second := by
  refine EndsAlike.eq ((eval_alike expr alike).bind fun a b same => ?_)
  exact .ok same.isTrue_eq

end Expr

end FilterTree
