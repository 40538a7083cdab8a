/-
Module: FilterTree.Proofs.Filter.Complement
Layer: Proofs
Purpose: Operators that come in pairs, a positive and a negated one. Some are negated by a `!` in front of a
  call, the others by a relation that is turned around, and in both ways the negated operator has the opposite
  answer to whatever the field is, or fails as the positive one does. So of a list on which a comparison does
  not fail, each record is given by one of the two filters, and by one only.
Imports: FilterTree.Proofs.Filter.Selection, FilterTree.Proofs.Tree.Negation,
  FilterTree.Proofs.Verdict.Comparisons
Main exports: Operator.Complements, Check.Complements, Check.Complements.negates, Predicate.keep_negates,
  Predicate.complements_split
-/
import FilterTree.Proofs.Filter.Selection
import FilterTree.Proofs.Tree.Negation
import FilterTree.Proofs.Verdict.Comparisons

namespace FilterTree

open Predicate

/-! ### Pairs of operators -/

/-- The pairs of a positive operator and its negation. -/
inductive Operator.Complements : Operator → Operator → Prop where
  | equals : Complements .equals .notEquals
  | contains : Complements .contains .notContains
  | startsWith : Complements .startsWith .notStartsWith
  | endsWith : Complements .endsWith .notEndsWith
  | isEmpty : Complements .isEmpty .isNotEmpty
  | isNull : Complements .isNull .isNotNull
  | isUndefined : Complements .isUndefined .isNotUndefined
  | isDateEqualTo : Complements .isDateEqualTo .isDateNotEqualTo

namespace Check

/-- The pairs of a question and the opposite one: the relation is turned around, or the match negated. -/
inductive Complements : Check → Check → Prop where
  | compared : Complements (.compared .eq) (.compared .ne)
  | constant (scalar : Scalar) : Complements (.constant .eq scalar) (.constant .ne scalar)
  | size : Complements (.size .eq) (.size .ne)
  | day : Complements (.day .eq) (.day .ne)
  | matching (function : Function) : Complements (.matching function false) (.matching function true)

variable {positive negative : Check}

/-- The opposite question has the opposite answer, or the same fault. -/
theorem Complements.answer (pair : positive.Complements negative) (value : Scalar) (reached : Operand) :
    negative.answer value reached = (positive.answer value reached).map (!·) := by
  -- The steps before the verdict are the same, so the negation may be moved behind them.
  have mapped : ∀ asked : Except Fault Bool, asked.map (!·) = (!·) <$> asked := fun _ => rfl
  cases pair with
  | compared | constant => rfl
  | size | day | matching =>
      rw [mapped]
      simp only [Check.answer, map_bind]
      rfl

/-- The expressions of the two questions have opposite verdicts. -/
theorem Complements.negates (pair : positive.Complements negative) (steps : List String) (value : Scalar) :
    Negates (negative.expr steps value) (positive.expr steps value) := by
  intro record
  rw [verdict_expr, verdict_expr, pair.answer]

end Check

/-- The two operators of a pair ask opposite questions. -/
theorem Operator.Complements.checks {positive negative : Operator} (pair : positive.Complements negative) :
    positive.check.Complements negative.check := by
  cases pair with
  | equals => exact .compared
  | contains | startsWith | endsWith => exact .matching _
  | isEmpty => exact .size
  | isNull | isUndefined => exact .constant _
  | isDateEqualTo => exact .day

namespace Predicate

/-! ### Opposite predicates on lists -/

section Lists

variable {α : Type} (view : α → Except String Value) {expr negated : Expr}

/-- Opposite verdicts are opposite outcomes. -/
theorem outcome_negates (negates : Negates negated expr) (record : α) :
    outcome view negated record = (outcome view expr record).map (!·) := by
  rw [outcome, outcome]
  cases (view record).mapError Fault.unreadableRecord with
  | error fault => rfl
  | ok value => exact negates value

/-- Of two opposite predicates, both fail on a list and for one reason, or each record is kept by one of them
    and by one only. -/
theorem keep_negates (negates : Negates negated expr) (records : List α) :
    (∃ fault, keep view expr records = .error fault ∧ keep view negated records = .error fault) ∨
      keep view expr records = .ok (records.filter (accepts view expr)) ∧
      keep view negated records = .ok (records.filter fun record => !accepts view expr record) := by
  induction records with
  | nil => exact .inr ⟨rfl, rfl⟩
  | cons record rest ih =>
      have opposite := outcome_negates view negates record
      simp only [keep_cons, List.filter_cons]
      cases houtcome : outcome view expr record with
      | error fault =>
          rw [houtcome] at opposite
          rw [opposite]
          exact .inl ⟨fault, rfl, rfl⟩
      | ok verdict =>
          rw [houtcome] at opposite
          have accepted : accepts view expr record = verdict := by rw [accepts, houtcome]
          rw [bind_of_ok opposite, bind_of_ok rfl, accepted]
          rcases ih with ⟨fault, hexpr, hnegated⟩ | ⟨hexpr, hnegated⟩
          · exact .inl ⟨fault, bind_error hexpr _, bind_error hnegated _⟩
          · exact .inr ⟨bind_of_ok hexpr _, bind_of_ok hnegated _⟩

end Lists

/-! ### Opposite comparisons -/

/-- A negated operator is the exact complement of its positive one. Two comparisons of one path with one finite
    value by such a pair both read as expressions, with opposite verdicts or the same fault on every record. So
    on every list of records the two filters fail with one error, or give the records that a test accepts and
    the records that it does not, in their order and as often as they are there. -/
theorem complements_split {positive negative : Operator} (pair : positive.Complements negative) {field : String}
    (path : IsPath field.toList) {value : Scalar}
    (finite : ∀ number, value = .number number → number.isFinite = true) (own other : Label) :
    let nodes : List Node := [.comparison own ⟨field, positive, value⟩]
    let opposed : List Node := [.comparison other ⟨field, negative, value⟩]
    ∃ expr negated, parse (text nodes) = .ok expr ∧ parse (text opposed) = .ok negated ∧
      Negates negated expr ∧
      ∀ {α : Type} (view : α → Except String Value) (records : List α),
        (∃ fault, ((Filter.ofNodes nodes).tryFilter (select view) records).1 = .error fault ∧
          ((Filter.ofNodes opposed).tryFilter (select view) records).1 = .error fault) ∨
        ((Filter.ofNodes nodes).tryFilter (select view) records).1 =
            .ok (records.filter (accepts view expr)) ∧
          ((Filter.ofNodes opposed).tryFilter (select view) records).1 =
            .ok (records.filter fun record => !accepts view expr record) := by
  intro nodes opposed
  have clean : ∀ operator, Comparison.Clean ⟨field, operator, value⟩ := fun operator => ⟨path, fun _ => finite⟩
  let steps : List String := Comparison.steps ⟨field, positive, value⟩
  let expr : Expr := positive.check.expr steps value
  let negated : Expr := negative.check.expr steps value
  have hexpr : parse (text nodes) = .ok expr := parse_single (clean positive)
  have hnegated : parse (text opposed) = .ok negated := parse_single (clean negative)
  have negates : Negates negated expr := pair.checks.negates steps value
  refine ⟨expr, negated, hexpr, hnegated, negates, fun view records => ?_⟩
  rw [tryFilter_of_parse view records (List.cons_ne_nil _ _) hexpr,
    tryFilter_of_parse view records (List.cons_ne_nil _ _) hnegated]
  exact keep_negates view negates records

/-- A field that is true, not there, null, and true again. -/
theorem complements_split_of_active :
    let nodes : List Node := [.comparison ⟨"a", none⟩ ⟨"active", .equals, .bool true⟩]
    let opposed : List Node := [.comparison ⟨"b", none⟩ ⟨"active", .notEquals, .bool true⟩]
    let active : Value := .map [(.text "active", .bool true)]
    let unknown : Value := .map [(.text "active", .null)]
    let records : List Value := [active, .map [], unknown, active]
    ((Filter.ofNodes nodes).tryFilter (select .ok) records).1 = .ok [active, active] ∧
      ((Filter.ofNodes opposed).tryFilter (select .ok) records).1 = .ok [.map [], unknown] := by
  intro nodes opposed active unknown records
  have path : IsPath ['a', 'c', 't', 'i', 'v', 'e'] := .last (by decide)
  have finite : ∀ number, Scalar.bool true = .number number → number.isFinite = true := fun _ h => nomatch h
  have hread : parse (text nodes) = .ok (.compare .eq (.path ["active"]) (.literal (.bool true))) :=
    @parse_single ⟨"a", none⟩ ⟨"active", .equals, .bool true⟩ ⟨path, fun _ => finite⟩
  obtain ⟨expr, negated, hexpr, -, -, split⟩ :=
    @complements_split _ _ .equals "active" path _ finite ⟨"a", none⟩ ⟨"b", none⟩
  rw [hread] at hexpr
  cases hexpr
  rcases split .ok records with ⟨fault, hfault, -⟩ | kept
  · cases hfault
  · exact kept

end Predicate

end FilterTree
