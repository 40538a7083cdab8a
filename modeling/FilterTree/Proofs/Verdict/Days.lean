/-
Module: FilterTree.Proofs.Verdict.Days
Layer: Proofs
Purpose: The comparisons of days. A text begins with a day when it is the text of one, alone or with a `T` and
  anything behind it, and two such texts are compared by their days alone. Where one of the two sides has no day,
  a NaN stands in its place, which is different from everything and in no other relation. A field that is
  neither a text nor null is refused, whatever it is compared with.
Imports: FilterTree.Proofs.Verdict.NullSafety
Main exports: Day.Before, Day.Begins, Relation.OfDays, Operator.ComparesDays, Relation.holds_days,
  Predicate.day_comparisons
-/
import FilterTree.Proofs.Verdict.NullSafety

namespace FilterTree

namespace Day

/-! ### The calendar -/

/-- A day is before another one: in an earlier year, or in an earlier month of the same year, or earlier in the
    same month. -/
def Before (a b : Day) : Prop :=
  a.year < b.year ∨ a.year = b.year ∧ (a.month < b.month ∨ a.month = b.month ∧ a.day < b.day)

/-- Days are ordered as the calendar has them. -/
theorem order_eq_lt_iff (a b : Day) : a.order b = .lt ↔ a.Before b := by
  simp only [order, Before, Ordering.then_eq_lt, Nat.compare_eq_lt, Nat.compare_eq_eq]

theorem order_eq_gt_iff (a b : Day) : a.order b = .gt ↔ b.Before a := by
  rw [order_swap b a, Ordering.swap_eq_gt, order_eq_lt_iff]

/-! ### Days at the front of texts -/

/-- A text begins with a day: it is the text of the day, or that with a `T` and anything behind it. -/
inductive Begins (day : Day) : List Char → Prop where
  | whole {text : List Char} (reads : ofText? text = some day) : Begins day text
  | stamped {text : List Char} (reads : ofText? text = some day) (behind : List Char) :
      Begins day (text ++ 'T' :: behind)

/-- The part of a text that is read as a day ends in front of a `T`. -/
theorem dayPart_behind (text behind : List Char) : dayPart (text ++ 'T' :: behind) = dayPart text := by
  have front : (text ++ 'T' :: behind).takeWhile (· != 'T') = text.takeWhile (· != 'T') := by
    induction text with
    | nil => rfl
    | cons c text ih => rw [List.cons_append, List.takeWhile_cons, List.takeWhile_cons, ih]
  rw [dayPart, front, dayPart]

/-- What stands behind a `T` has no part in the day. -/
theorem ofText?_behind (text behind : List Char) : ofText? (text ++ 'T' :: behind) = ofText? text := by
  rw [ofText?, dayPart_behind, ofText?]

/-- The day that a text begins with is the one that is read from it. -/
theorem begins_iff {day : Day} {text : List Char} : day.Begins text ↔ ofText? text = some day := by
  constructor
  · intro begins
    cases begins with
    | whole reads => exact reads
    | stamped reads behind => rw [ofText?_behind, reads]
  · exact .whole

/-- A text begins with no day exactly when none is read from it. -/
theorem begins_none_iff {text : List Char} : (∀ day : Day, ¬ day.Begins text) ↔ ofText? text = none := by
  simp only [begins_iff, Option.eq_none_iff_forall_ne_some, ne_eq]

end Day

/-! ### Relations between days -/

namespace Relation

/-- What a relation says of two days. -/
def OfDays (a b : Day) : Relation → Prop
  | .eq => a = b
  | .ne => a ≠ b
  | .gt => b.Before a
  | .lt => a.Before b
  | .ge => b.Before a ∨ a = b
  | .le => a.Before b ∨ a = b

/-- A relation holds between two days when it says so of the calendar. -/
theorem holds_days (a b : Day) (relation : Relation) :
    relation.holds (.date a) (.date b) = true ↔ relation.OfDays a b := by
  have order : Operand.order? (.date a) (.date b) = some (a.order b) := rfl
  have equal : Operand.looseEq (.date a) (.date b) = (a == b) := rfl
  cases relation <;>
    simp [holds, OfDays, order, equal, Day.order_eq_lt_iff, Day.order_eq_gt_iff, Day.order_eq_iff]

/-- Everything is different from a NaN and in no other relation to it. -/
theorem holds_of_nan (a : Operand) (relation : Relation) :
    relation.holds a (.number .nan) = (relation == .ne) := by
  have order : a.order? (.number .nan) = none := by rw [Operand.order?_swap, Operand.order?_nan]; rfl
  have equal : a.looseEq (.number .nan) = false := by rw [Operand.looseEq_comm, Operand.looseEq_nan]
  cases relation <;> simp [holds, order, equal]

/-- Where one of two texts has no day, the two sides are different and in no other relation. -/
theorem holds_ofDay?_none {a b : Option Day} (missing : a = none ∨ b = none) (relation : Relation) :
    relation.holds (.ofDay? a) (.ofDay? b) = (relation == .ne) := by
  rcases missing with rfl | rfl
  · exact relation.holds_nan _
  · exact relation.holds_of_nan _

end Relation

/-! ### Comparisons of days -/

/-- The operators that compare days, each with its relation. -/
inductive Operator.ComparesDays : Operator → Relation → Prop where
  | isDateGreaterThan : ComparesDays .isDateGreaterThan .gt
  | isDateGreaterThanOrEqual : ComparesDays .isDateGreaterThanOrEqual .ge
  | isDateLessThan : ComparesDays .isDateLessThan .lt
  | isDateLessThanOrEqual : ComparesDays .isDateLessThanOrEqual .le
  | isDateEqualTo : ComparesDays .isDateEqualTo .eq
  | isDateNotEqualTo : ComparesDays .isDateNotEqualTo .ne

namespace Operator.ComparesDays

variable {operator : Operator} {relation : Relation}

/-- Such an operator asks for the days of both sides. -/
theorem check_eq (compares : operator.ComparesDays relation) : operator.check = .day relation := by
  cases compares <;> rfl

/-- The relation is inequality for one of these operators. -/
theorem beq_ne (compares : operator.ComparesDays relation) :
    (relation == .ne) = decide (operator = .isDateNotEqualTo) := by
  cases compares <;> rfl

end Operator.ComparesDays

namespace Check

/-- Two texts are compared by their days, with a NaN for a text without one. -/
theorem answer_day (relation : Relation) (subject pattern : String) :
    (Check.day relation).answer (.text pattern) (.text subject) =
      .ok (relation.holds (.ofDay? (Day.ofText? subject.toList)) (.ofDay? (Day.ofText? pattern.toList))) := by
  rw [answer, Function.date_text, Operand.ofScalar, Function.date_text]
  rfl

end Check

namespace Predicate

/-- The operators of days compare calendar days and nothing else. The predicate of such a comparison, whose
    field is a path and whose value is a text, reads as an expression. Where the path leads to a text and both
    texts begin with days, the verdict is what the relation says of these, whatever stands behind a `T`; where
    one of the texts begins with no day, and where the path reaches nothing, only the operator of inequality
    gives true. A field of any other type is a fault, the same for all of them. -/
theorem day_comparisons {operator : Operator} {relation : Relation} (compares : operator.ComparesDays relation)
    {field : String} (path : IsPath field.toList) (value : String) (label : Label) :
    let comparison : Comparison := ⟨field, operator, .text value⟩
    ∃ expr, parse (text [.comparison label comparison]) = .ok expr ∧ ∀ record : Value,
      (∀ last subject, record.Leads comparison.steps last → last.untagged = .text subject →
        (∀ a b : Day, a.Begins subject.toList → b.Begins value.toList →
          ∃ verdict, expr.verdict record = .ok verdict ∧ (verdict = true ↔ relation.OfDays a b)) ∧
        ((∀ day : Day, ¬ day.Begins subject.toList) ∨ (∀ day : Day, ¬ day.Begins value.toList) →
          expr.verdict record = .ok (decide (operator = .isDateNotEqualTo)))) ∧
      (record.ReachesNothing comparison.steps →
        expr.verdict record = .ok (decide (operator = .isDateNotEqualTo))) ∧
      ∀ last type, record.Leads comparison.steps last → last.refusedType? = some type →
        expr.verdict record = .error (.typeMismatch .date type) := by
  intro comparison
  have clean : comparison.Clean := ⟨path, fun _ _ h => nomatch h⟩
  refine ⟨_, parse_single clean, fun record => ?_⟩
  have asked : (comparison.operator.check.expr comparison.steps comparison.value).verdict record =
      (Check.day relation).answer (.text value) (record.resolve comparison.steps) := by
    rw [Check.verdict_expr, compares.check_eq]
  rw [asked]
  refine ⟨fun last subject leads isText => ?_, fun nothing => ?_, fun last type leads refused => ?_⟩
  · rw [Value.resolve_of_leads leads, Operand.ofValue_of_text last isText, Check.answer_day]
    constructor
    · intro a b beginsSubject beginsValue
      rw [Day.begins_iff.mp beginsSubject, Day.begins_iff.mp beginsValue]
      exact ⟨_, rfl, relation.holds_days a b⟩
    · intro missing
      rw [Day.begins_none_iff, Day.begins_none_iff] at missing
      rw [relation.holds_ofDay?_none missing, compares.beq_ne]
  · have nullish := (record.resolve_isNullish_iff comparison.steps).mpr nothing
    rw [Check.answer_nullish (fun _ => ⟨value, rfl⟩) nullish, Check.ofNothing, compares.beq_ne]
  · rw [Value.resolve_of_leads leads]
    exact Check.answer_refused rfl refused

/-- The evening and the morning of one day, no day at all, nothing, and a number. -/
theorem day_comparisons_of_created :
    let comparison : Comparison := ⟨"created", .isDateGreaterThanOrEqual, .text "2024-02-10T23:59:00"⟩
    let created : Value → Value := fun value => .map [(.text "created", value)]
    ∃ expr, parse (text [.comparison ⟨"c", none⟩ comparison]) = .ok expr ∧
      expr.verdict (created (.tagged "!at" (.text "2024-2-10T08:00:00Z"))) = .ok true ∧
      expr.verdict (created (.text "yesterday")) = .ok false ∧ expr.verdict (.map []) = .ok false ∧
      expr.verdict (created (.int 20240210)) = .error (.typeMismatch .date .number) := by
  intro comparison created
  have path : IsPath ['c', 'r', 'e', 'a', 't', 'e', 'd'] := .last (by decide)
  have leads : ∀ value, (created value).Leads ["created"] value :=
    fun value => .step (.entry rfl rfl) (.here value)
  obtain ⟨expr, hexpr, verdicts⟩ := @day_comparisons _ _ .isDateGreaterThanOrEqual "created" path
    "2024-02-10T23:59:00" ⟨"c", none⟩
  have morning : Day.Begins ⟨2024, 2, 10⟩ "2024-2-10T08:00:00Z".toList :=
    @Day.Begins.stamped ⟨2024, 2, 10⟩ "2024-2-10".toList (by decide) "08:00:00Z".toList
  have evening : Day.Begins ⟨2024, 2, 10⟩ "2024-02-10T23:59:00".toList :=
    @Day.Begins.stamped ⟨2024, 2, 10⟩ "2024-02-10".toList (by decide) "23:59:00".toList
  have noDay : ∀ day : Day, ¬ day.Begins "yesterday".toList := Day.begins_none_iff.mpr (by decide)
  refine ⟨expr, hexpr, ?_, ?_, ?_, ?_⟩
  · have tagged := leads (.tagged "!at" (.text "2024-2-10T08:00:00Z"))
    obtain ⟨verdict, hverdict, holds⟩ := ((verdicts _).1 _ _ tagged rfl).1 _ _ morning evening
    rw [hverdict, holds.mpr (.inr rfl)]
  · exact ((verdicts _).1 _ _ (leads _) rfl).2 (.inl noDay)
  · exact (verdicts _).2.1 (.inl (.here (.missing rfl fun _ => List.not_mem_nil)))
  · exact (verdicts _).2.2 _ _ (leads _) rfl

end Predicate

end FilterTree
