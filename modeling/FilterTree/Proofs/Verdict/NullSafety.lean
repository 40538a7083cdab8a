/-
Module: FilterTree.Proofs.Verdict.NullSafety
Layer: Proofs
Purpose: Which comparisons have a verdict on a record, and what it is where their path reaches nothing. Null and
  undefined pass every function and every relation and give a verdict that depends on the operator alone. The
  questions that read texts refuse every other value, and no question fails otherwise. A tree without such
  questions has a verdict on every record.
Imports: FilterTree.Proofs.Tree.Inheritance, FilterTree.Proofs.Verdict.Comparisons,
  FilterTree.Proofs.Verdict.Functions, FilterTree.Proofs.Verdict.Relations
Main exports: Operator.matchesNothing, Check.reader?, Check.answer_eq_error_iff, Expr.OnlyMeasures,
  Expr.exists_verdict, Predicate.verdict_null_safe
-/
import FilterTree.Proofs.Tree.Inheritance
import FilterTree.Proofs.Verdict.Comparisons
import FilterTree.Proofs.Verdict.Functions
import FilterTree.Proofs.Verdict.Relations

namespace FilterTree

open Predicate (Fault OperandType bind_of_ok bind_error)

/-! ### Operators where nothing is -/

/-- Whether an operator matches where the path reaches nothing. -/
def Operator.matchesNothing (value : Scalar) : Operator → Bool
  | .isNull | .isUndefined => true
  | .isNotNull | .isNotUndefined => false
  | .equals => value == .null || value == .undefined
  | .notEquals => !(value == .null || value == .undefined)
  | .lessThan | .greaterThan | .greaterThanOrEqual | .lessThanOrEqual => false
  | .contains | .startsWith | .endsWith | .isEmpty => false
  | .notContains | .notStartsWith | .notEndsWith | .isNotEmpty => true
  | .isDateGreaterThan | .isDateGreaterThanOrEqual | .isDateLessThan | .isDateLessThanOrEqual => false
  | .isDateEqualTo => false
  | .isDateNotEqualTo => true

namespace Check

/-- The function that a question reads its field and its value with, when that function refuses anything. -/
def reader? : Check → Option Function
  | .matching _ _ => some .lower
  | .day _ => some .date
  | .compared _ | .size _ | .constant _ _ => none

/-- Whether the answer to nothing is yes. -/
def ofNothing (value : Scalar) : Check → Bool
  | .compared relation => relation.ofNullish (.ofScalar value)
  | .constant relation scalar => relation.ofNullish (.ofScalar scalar)
  | .size relation => relation.ofNullish (.number .zero)
  | .day relation => relation == .ne
  | .matching _ negated => negated

/-- The answers of the operators to nothing. -/
theorem ofNothing_check (operator : Operator) (value : Scalar) :
    operator.check.ofNothing value = operator.matchesNothing value := by
  cases operator with
  | equals | notEquals => cases value <;> rfl
  | _ => rfl

/-! ### Answers and faults -/

variable {check : Check} {value : Scalar} {reached : Value}

/-- A question that reads its field refuses a field of another type. -/
theorem answer_refused {function : Function} {type : OperandType} (reads : check.reader? = some function)
    (refused : reached.refusedType? = some type) :
    check.answer value (.ofValue reached) = .error (.typeMismatch function type) := by
  cases check with
  | compared | size | constant => cases reads
  | day relation =>
      cases reads
      exact bind_error (Function.apply_refused (.inr rfl) reached refused) _
  | matching function negated =>
      cases reads
      exact bind_error (Function.apply_refused (.inl rfl) reached refused) _

-- The value is a text where the question reads it.
variable (text : check.reader? ≠ none → ∃ pattern, value = .text pattern)

include text

/-- Every question has an answer to nothing. -/
theorem answer_nullish {reached : Operand} (nullish : reached.isNullish = true) :
    check.answer value reached = .ok (check.ofNothing value) := by
  cases check with
  | compared relation => exact congrArg Except.ok (relation.holds_nullish nullish _)
  | constant relation scalar => exact congrArg Except.ok (relation.holds_nullish nullish _)
  | size relation =>
      rw [answer, bind_of_ok (Function.len_nullish nullish), ofNothing, relation.holds_nullish rfl]
  | day relation =>
      obtain ⟨pattern, rfl⟩ := text (Option.some_ne_none _)
      rw [answer, bind_of_ok (Function.date_nullish nullish), Operand.ofScalar,
        bind_of_ok (Function.date_text pattern), relation.holds_nan, ofNothing]
  | matching function negated =>
      obtain ⟨pattern, rfl⟩ := text (Option.some_ne_none _)
      obtain ⟨result, applied, untrue⟩ :=
        function.apply_undefined (.text (String.ofList (Text.lower pattern.toList)))
      rw [answer, bind_of_ok (Function.lower_nullish nullish), Operand.ofScalar,
        bind_of_ok (Function.lower_text pattern), bind_of_ok applied, untrue, ofNothing]
      cases negated with
      | false => rfl
      | true => rfl

/-- A question that reads nothing, or nothing that it refuses, has an answer. -/
theorem answer_accepted (accepted : check.reader? = none ∨ reached.refusedType? = none) :
    ∃ verdict, check.answer value (.ofValue reached) = .ok verdict := by
  cases check with
  | compared | constant => exact ⟨_, rfl⟩
  | size relation =>
      obtain ⟨length, hlength⟩ := Function.exists_len (.ofValue reached)
      exact ⟨_, bind_of_ok hlength _⟩
  | day relation =>
      obtain ⟨pattern, rfl⟩ := text (Option.some_ne_none _)
      have textual := Operand.textual_of_accepted reached (accepted.resolve_left (Option.some_ne_none _))
      obtain ⟨left, hleft⟩ := Function.exists_date textual
      rw [answer, bind_of_ok hleft]
      exact ⟨_, bind_of_ok (Function.date_text pattern) _⟩
  | matching function negated =>
      obtain ⟨pattern, rfl⟩ := text (Option.some_ne_none _)
      have textual := Operand.textual_of_accepted reached (accepted.resolve_left (Option.some_ne_none _))
      obtain ⟨subject, hsubject, lowered⟩ := Function.exists_lower textual
      obtain ⟨result, hresult⟩ := function.exists_apply lowered (String.ofList (Text.lower pattern.toList))
      rw [answer, bind_of_ok hsubject]
      exact ⟨_, bind_of_ok hresult _⟩

/-- A question fails exactly when it reads its field and the field is of a type that it refuses. -/
theorem answer_eq_error_iff (fault : Fault) :
    check.answer value (.ofValue reached) = .error fault ↔
      ∃ function type, check.reader? = some function ∧ reached.refusedType? = some type ∧
        fault = .typeMismatch function type := by
  constructor
  · intro failed
    have notAccepted : ¬ (check.reader? = none ∨ reached.refusedType? = none) := by
      intro accepted
      obtain ⟨verdict, answered⟩ := answer_accepted text accepted
      rw [answered] at failed
      cases failed
    rw [not_or] at notAccepted
    obtain ⟨function, reads⟩ := Option.ne_none_iff_exists'.mp notAccepted.1
    obtain ⟨type, refused⟩ := Option.ne_none_iff_exists'.mp notAccepted.2
    rw [answer_refused reads refused] at failed
    cases failed
    exact ⟨function, type, reads, refused, rfl⟩
  · rintro ⟨function, type, reads, refused, rfl⟩
    exact answer_refused reads refused

end Check

/-! ### Expressions that refuse nothing -/

namespace Expr

mutual

/-- The only function that an expression calls is the length. -/
def OnlyMeasures : Expr → Prop
  | .literal _ => True
  | .path _ => True
  | .call function args => function = .len ∧ AllMeasure args
  | .not operand => OnlyMeasures operand
  | .compare _ left right => OnlyMeasures left ∧ OnlyMeasures right
  | .and left right => OnlyMeasures left ∧ OnlyMeasures right
  | .or left right => OnlyMeasures left ∧ OnlyMeasures right

/-- The only function that several expressions call is the length. -/
def AllMeasure : List Expr → Prop
  | [] => True
  | arg :: args => OnlyMeasures arg ∧ AllMeasure args

end

mutual

/-- An expression that calls no function but the length has an operand on every record. -/
theorem exists_eval (record : Value) : ∀ expr : Expr, expr.OnlyMeasures →
    ∃ operand, expr.eval record = .ok operand
  | .literal value, _ => ⟨_, rfl⟩
  | .path names, _ => ⟨_, rfl⟩
  | .call function args, ⟨measured, each⟩ => by
      subst measured
      obtain ⟨operands, hargs⟩ := exists_evalAll record args each
      rw [eval, bind_of_ok hargs]
      match operands with
      | [] => exact ⟨_, rfl⟩
      | subject :: others => exact Function.exists_len subject
  | .not operand, measures => by
      obtain ⟨inner, hinner⟩ := exists_eval record operand measures
      exact ⟨_, bind_of_ok hinner _⟩
  | .compare relation left right, ⟨first, second⟩ => by
      obtain ⟨a, ha⟩ := exists_eval record left first
      obtain ⟨b, hb⟩ := exists_eval record right second
      rw [eval, bind_of_ok ha]
      exact ⟨_, bind_of_ok hb _⟩
  | .and left right, ⟨first, second⟩ => by
      obtain ⟨a, ha⟩ := exists_eval record left first
      obtain ⟨b, hb⟩ := exists_eval record right second
      rw [eval, bind_of_ok ha, bind_of_ok hb]
      cases a.isTrue <;> exact ⟨_, rfl⟩
  | .or left right, ⟨first, second⟩ => by
      obtain ⟨a, ha⟩ := exists_eval record left first
      obtain ⟨b, hb⟩ := exists_eval record right second
      rw [eval, bind_of_ok ha, bind_of_ok hb]
      cases a.isTrue <;> exact ⟨_, rfl⟩

/-- Several such expressions have an operand each. -/
theorem exists_evalAll (record : Value) : ∀ exprs : List Expr, AllMeasure exprs →
    ∃ operands, evalAll record exprs = .ok operands
  | [], _ => ⟨_, rfl⟩
  | arg :: args, ⟨first, others⟩ => by
      obtain ⟨operand, hfirst⟩ := exists_eval record arg first
      obtain ⟨operands, hothers⟩ := exists_evalAll record args others
      rw [evalAll, bind_of_ok hfirst]
      exact ⟨_, bind_of_ok hothers _⟩

end

/-- An expression that calls no function but the length has a verdict on every record. -/
theorem exists_verdict {expr : Expr} (measures : expr.OnlyMeasures) (record : Value) :
    ∃ verdict, expr.verdict record = .ok verdict := by
  obtain ⟨operand, heval⟩ := exists_eval record expr measures
  exact ⟨_, bind_of_ok heval _⟩

end Expr

/-- A question that reads no text calls no function but the length. -/
theorem Check.onlyMeasures_expr {check : Check} (unread : check.reader? = none) (steps : List String)
    (value : Scalar) : (check.expr steps value).OnlyMeasures := by
  cases check with
  | compared | constant => exact ⟨trivial, trivial⟩
  | size => exact ⟨⟨rfl, trivial, trivial⟩, trivial⟩
  | day | matching => cases unread

namespace Predicate

/-- The operator of a comparison reads no text. -/
def Unread (comparison : Comparison) : Prop :=
  comparison.operator.check.reader? = none

/-- Connectives call no function. -/
theorem onlyMeasures_inherited : Inherited Unread Expr.OnlyMeasures where
  asked unread := Check.onlyMeasures_expr unread _ _
  negated {term} measures := by
    obtain ⟨reached, compared⟩ := term
    cases compared with
    | none => exact measures
    | some sides => exact measures
  and := And.intro
  or := And.intro

/-- A tree whose operators read no text means an expression that calls no function but the length. -/
theorem onlyMeasures_meaning {nodes : List Node} (unread : Node.EveryAmong Unread (fun _ => True) nodes) :
    (meaning nodes).OnlyMeasures :=
  onlyMeasures_inherited.of_meaning (fun _ => trivial) unread

/-- Comparisons are safe where nothing is, and fail exactly on wrong types. The predicate of a clean comparison,
    whose value is a text where the operator reads it, has on a record without anything at its path the verdict
    of its operator alone. Where the path leads to a value, it fails if and only if the operator reads texts and
    the value is neither a text nor null, and the fault names the function and the type. So trees without such
    operators never fail. -/
theorem verdict_null_safe {comparison : Comparison} (clean : comparison.Clean)
    (readable : comparison.operator.check.reader? ≠ none → ∃ pattern, comparison.value = .text pattern) :
    (∀ label, ∃ expr, parse (text [.comparison label comparison]) = .ok expr ∧ ∀ record : Value,
      (record.ReachesNothing comparison.steps →
        expr.verdict record = .ok (comparison.operator.matchesNothing comparison.value)) ∧
      ∀ last, record.Leads comparison.steps last → ∀ fault, expr.verdict record = .error fault ↔
        ∃ function type, comparison.operator.check.reader? = some function ∧ last.refusedType? = some type ∧
          fault = .typeMismatch function type) ∧
    ∀ nodes expr, Clean nodes → Node.EveryAmong Unread (fun _ => True) nodes → parse (text nodes) = .ok expr →
      ∀ record, ∃ verdict, expr.verdict record = .ok verdict := by
  refine ⟨fun label => ⟨_, parse_single clean, fun record => ⟨fun nothing => ?_, fun last leads fault => ?_⟩⟩, ?_⟩
  · have nullish := (record.resolve_isNullish_iff comparison.steps).mpr nothing
    rw [Check.verdict_expr, Check.answer_nullish readable nullish, Check.ofNothing_check]
  · rw [Check.verdict_expr, Value.resolve_of_leads leads]
    exact Check.answer_eq_error_iff readable fault
  · intro nodes expr clean unread hparse record
    obtain ⟨-, -, rfl⟩ := eq_meaning_of_parse clean hparse
    exact Expr.exists_verdict (onlyMeasures_meaning unread) record

/-- A field below a list that is too short, and below a number; then a tree that asks only for emptiness. -/
theorem verdict_null_safe_of_tags :
    let comparison : Comparison := ⟨"tags.1", .notContains, .text "new"⟩
    let expr : Expr :=
      .not (.call .contains [.call .lower [.path ["tags", "1"]], .call .lower [.literal (.text "new")]])
    let nodes : List Node := [.comparison ⟨"e", none⟩ ⟨"tags", .isEmpty, .undefined⟩]
    let short : Value := .map [(.text "tags", .list [.text "old"])]
    let numbered : Value := .map [(.text "tags", .list [.text "old", .tagged "!at" (.int 7)])]
    parse (text [.comparison ⟨"c", none⟩ comparison]) = .ok expr ∧ expr.verdict short = .ok true ∧
      expr.verdict numbered = .error (.typeMismatch .lower .number) ∧
      ∀ record, ∃ verdict, (meaning nodes).verdict record = .ok verdict := by
  intro comparison expr nodes short numbered
  have tags : IsPath ['t', 'a', 'g', 's'] := .last (by decide)
  have path : IsPath (['t', 'a', 'g', 's'] ++ (['.'] ++ ['1'])) := .step (by decide) (.inl rfl) (.last (by decide))
  have clean : Comparison.Clean ⟨"tags.1", .notContains, .text "new"⟩ := ⟨path, fun _ _ h => nomatch h⟩
  have cleanNodes : Clean nodes := ⟨⟨tags, fun _ _ h => nomatch h⟩, trivial⟩
  have items : short.Has "tags" (.list [.text "old"]) := .entry rfl rfl
  have beyond : short.ReachesNothing ["tags", "1"] := .inl (.later items (.here (.beyond rfl rfl (Nat.le_refl 1))))
  have leads : numbered.Leads ["tags", "1"] (.tagged "!at" (.int 7)) :=
    .step (.entry rfl rfl) (.step (.item rfl rfl rfl) (.here _))
  obtain ⟨single, trees⟩ := verdict_null_safe clean fun _ => ⟨"new", rfl⟩
  obtain ⟨read, hread, verdicts⟩ := single ⟨"c", none⟩
  have hexpr : parse (text [.comparison ⟨"c", none⟩ comparison]) = .ok expr := parse_single clean
  rw [hexpr] at hread
  cases hread
  refine ⟨hexpr, (verdicts short).1 beyond, ((verdicts numbered).2 _ leads _).mpr ⟨_, _, rfl, rfl, rfl⟩, ?_⟩
  exact trees nodes _ cleanNodes ⟨rfl, trivial⟩
    (parse_meaning cleanNodes ⟨.last .operand, trivial, trivial⟩ (by decide))

end Predicate

end FilterTree
