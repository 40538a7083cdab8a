/-
Module: FilterTree.Proofs.Tree.Terms
Layer: Proofs
Purpose: Terms among siblings, as the parser reads them: an operand with the negations that are written in
  front of it. The negations reach what the operand begins with, each takes a level, and a relation with its
  right side stays outside.
Imports: FilterTree.Proofs.Tree.Comparisons
Main exports: Reading, Reading.nots, OperandReading, OperandReading.of_reading, Comparison.Clean.operand
-/
import FilterTree.Proofs.Tree.Comparisons

namespace FilterTree

open Predicate
open Text (isBlankText skipBlanks)

/-! ### Negations -/

/-- Negations as they are written in front of an operand. -/
def nots : Nat → List Char
  | 0 => []
  | n + 1 => ' ' :: '!' :: ' ' :: nots n

/-- One more negation behind others is one more negation. -/
theorem nots_append (n : Nat) (text : List Char) :
    nots n ++ ' ' :: '!' :: ' ' :: text = nots (n + 1) ++ text := by
  induction n with
  | zero => rfl
  | succ n ih => rw [nots, List.cons_append, List.cons_append, List.cons_append, ih]; rfl

/-- An expression behind negations. -/
def notted : Nat → Expr → Expr
  | 0, expr => expr
  | n + 1, expr => .not (notted n expr)

/-- A term behind negations. -/
def Predicate.Term.notted (n : Nat) (term : Term) : Term :=
  { term with reached := FilterTree.notted n term.reached }

/-! ### Unaries -/

/-- In front of what keeps it apart, a text is read as an expression where it is `good` and enough levels are
    left, and refused everywhere else. -/
structure Reading (bound : Nat) (good : Prop) (levels : Nat) (text : List Char) (expr : Expr) : Prop where
  reads : ∀ {left : Nat} {rest : List Char}, Apart rest → (text ++ rest).length ≤ bound → good →
    levels ≤ left → Leaves (unary bound left) text expr rest
  refuses : ∀ {left : Nat} {rest : List Char}, Apart rest → (text ++ rest).length ≤ bound →
    ¬ (good ∧ levels ≤ left) → Refuses (unary bound left) (text ++ rest)

/-- Blanks in front of what is read make no difference. -/
theorem leaves_blanks {bound left : Nat} {blanks text rest : List Char} {expr : Expr}
    (hb : isBlankText blanks = true) (leaves : Leaves (unary bound left) text expr rest) :
    Leaves (unary bound left) (blanks ++ text) expr rest := by
  obtain ⟨last, hread, hlast⟩ := leaves
  cases left with
  | zero => cases hread
  | succ left =>
      refine ⟨last, ?_, hlast⟩
      rw [List.append_assoc, unary_blanks hb, hread]

/-- A negation and the blanks around it take one level. -/
theorem leaves_not {bound left : Nat} {text rest : List Char} {expr : Expr}
    (leaves : Leaves (unary bound left) text expr rest) :
    Leaves (unary bound (left + 1)) (' ' :: '!' :: ' ' :: text) (.not expr) rest := by
  obtain ⟨last, hread, hlast⟩ := leaves_blanks Text.isBlankText_space leaves
  have hbang : Leaves (unary bound (left + 1)) ('!' :: ' ' :: text) (.not expr) rest := by
    refine ⟨last, ?_, hlast⟩
    rw [List.cons_append, unary_bang]
    rw [List.singleton_append] at hread
    rw [hread]
    rfl
  exact leaves_blanks Text.isBlankText_space hbang

theorem Reading.nots {bound levels : Nat} {good : Prop} {text : List Char} {expr : Expr}
    (reading : Reading bound good levels text expr) (n : Nat) :
    Reading bound good (n + levels) (nots n ++ text) (notted n expr) := by
  induction n with
  | zero =>
      rw [Nat.zero_add]
      exact reading
  | succ n ih =>
      constructor
      · intro left rest apart hbound hgood enough
        cases left with
        | zero => omega
        | succ left =>
            apply leaves_not
            refine ih.reads apart ?_ hgood (by omega)
            simp only [FilterTree.nots, List.cons_append, List.length_cons] at hbound
            omega
      · intro left rest apart hbound hless
        apply Refuses.space
        cases left with
        | zero => exact refuses_zero bound _
        | succ left =>
            apply refuses_not
            apply Refuses.space
            refine ih.refuses apart ?_ fun h => hless ⟨h.1, by omega⟩
            simp only [FilterTree.nots, List.cons_append, List.length_cons] at hbound
            omega

/-! ### Terms -/

/-- In front of what begins with no relation, the text of an operand behind `n` negations is read as the term
    behind `n` negations where it is `good` and enough levels are left, and refused everywhere else. -/
structure OperandReading (bound : Nat) (good : Prop) (levels : Nat) (text : List Char) (term : Term) :
    Prop where
  reads : ∀ {n left : Nat} {rest : List Char}, Unrelated rest → (nots n ++ text ++ rest).length ≤ bound →
    good → n + levels ≤ left →
    Leaves (compareExpr (unary bound left)) (nots n ++ text) (term.notted n).expr rest
  refuses : ∀ {n left : Nat} {rest : List Char}, Unrelated rest → (nots n ++ text ++ rest).length ≤ bound →
    ¬ (good ∧ n + levels ≤ left) → Refuses (compareExpr (unary bound left)) (nots n ++ text ++ rest)

/-- What is reached, with the relation and the right side behind it, is an operand. -/
theorem OperandReading.of_reading {bound levels : Nat} {good : Prop} {text : List Char}
    {opposed : Option (Relation × List Char)} {term : Term}
    (reading : Reading bound good levels text term.reached)
    (opposes : Check.Opposes levels opposed term.compared) :
    OperandReading bound good levels (text ++ Check.behind opposed) term := by
  obtain ⟨reached, compared⟩ := term
  cases opposes with
  | nothing =>
      rw [Check.behind, List.append_nil]
      constructor
      · intro n left rest unrelated hbound hgood enough
        exact compareExpr_single ((reading.nots n).reads unrelated.apart hbound hgood enough)
          unrelated.noRelation
      · intro n left rest unrelated hbound hless
        exact ((reading.nots n).refuses unrelated.apart hbound hless).compareExpr
  | @something right expr relation phrase =>
      have htext : ∀ (n : Nat) (rest : List Char),
          FilterTree.nots n ++ (text ++ Check.behind (some (relation, right))) ++ rest =
            FilterTree.nots n ++ text ++ ([' '] ++ (relation.symbol.toList ++ (' ' :: right ++ rest))) := by
        intro n rest
        simp [Check.behind]
      have apart : ∀ rest, Apart ([' '] ++ (relation.symbol.toList ++ (' ' :: right ++ rest))) :=
        fun rest => (apart_relation (.relation relation) (by decide) _).1
      constructor
      · intro n left rest unrelated hbound hgood enough
        rw [htext] at hbound
        have first := (reading.nots n).reads (apart rest) hbound hgood enough
        have second : Leaves (unary bound left) (' ' :: right) expr rest := by
          apply leaves_blanks Text.isBlankText_space
          refine phrase.reads unrelated.apart ?_ (by omega)
          simp only [List.length_append, List.length_cons] at hbound ⊢
          omega
        have noEquals : Text.StopsAt (· == '=') (' ' :: right ++ rest) := by
          simp [Text.StopsAt]
        have compared := compareExpr_related (.relation relation) (by decide) noEquals first second
        simpa [Check.behind, Term.notted, Term.expr] using compared
      · intro n left rest unrelated hbound hless
        rw [htext] at hbound ⊢
        exact ((reading.nots n).refuses (apart rest) hbound hless).compareExpr

/-- The text of a question is an operand, when the text of its path and, where it is looked at, that of its
    value are what they stand for. -/
theorem Check.operand {check : Check} {names : List String} {value : Scalar} {field written : List Char}
    (readable : check.Readable) (hpath : Layout [.path names] (pathText field))
    (hvalue : .value ∈ check.pieces → Layout [.scalar value] written) (bound : Nat) :
    OperandReading bound True check.levels (check.pieces.flatMap (Piece.fill field written))
      (.ofExpr (check.expr names value)) := by
  obtain ⟨phrase, opposes⟩ := Check.phrases readable hpath hvalue
  have reading : Reading bound True check.levels (check.reachedText field written)
      (Term.ofExpr (check.expr names value)).reached := by
    constructor
    · intro left rest apart hbound _ enough
      exact phrase.reads apart hbound enough
    · intro left rest _ _ hless
      exact check.deep field written rest bound left
        (Nat.not_le.mp fun enough => hless ⟨trivial, enough⟩)
  rw [Check.fill_pieces]
  exact OperandReading.of_reading reading opposes

/-- The value of a clean comparison is written as a literal of itself. -/
theorem Comparison.Clean.value_layout {comparison : Comparison} (clean : comparison.Clean) :
    .value ∈ comparison.operator.check.pieces → Layout [.scalar comparison.value] comparison.value.literal :=
  fun hmem => Layout.single (spelled_literal (clean.finite hmem))

/-- The text of a clean comparison is an operand. -/
theorem Comparison.Clean.operand {comparison : Comparison} (clean : comparison.Clean) (bound : Nat) :
    OperandReading bound True comparison.levels comparison.predicate (.ofComparison comparison) :=
  Check.operand (Check.readable comparison.operator) (Layout.single clean.spelled_path) clean.value_layout bound

end FilterTree
