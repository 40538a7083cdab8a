/-
Module: FilterTree.Proofs.Verdict.Functions
Layer: Proofs
Purpose: The functions of predicates on texts and on what is no text. Null and undefined pass every function.
  `lower` and `date` refuse other types: of the values of records, those that are neither a text nor null.
Imports: FilterTree.Predicate.Eval
Main exports: Operand.Textual, Operand.ofDay?, Function.date_text, Function.exists_apply, Value.refusedType?,
  Function.apply_refused
-/
import FilterTree.Predicate.Eval

namespace FilterTree

open Predicate (OperandType)

/-! ### Functions of texts and of nothing -/

/-- An operand that is a text or nothing. -/
inductive Operand.Textual : Operand → Prop where
  | undefined : Textual .undefined
  | null : Textual .null
  | text (value : String) : Textual (.text value)

/-- The nullish operands are undefined and null. -/
theorem Operand.isNullish_cases {a : Operand} (nullish : a.isNullish = true) : a = .undefined ∨ a = .null := by
  cases a with
  | undefined => exact .inl rfl
  | null => exact .inr rfl
  | bool | number | text | date | list | object => cases nullish

/-- The operand of a text's day: a NaN where the text is none. -/
def Operand.ofDay? : Option Day → Operand
  | some day => .date day
  | none => .number .nan

namespace Function

/-- Nothing stays nothing in lower case. -/
theorem lower_nullish {a : Operand} (nullish : a.isNullish = true) : lower.apply [a] = .ok .undefined := by
  rcases Operand.isNullish_cases nullish with rfl | rfl <;> rfl

/-- Nothing has no length. -/
theorem len_nullish {a : Operand} (nullish : a.isNullish = true) : len.apply [a] = .ok .undefined := by
  rcases Operand.isNullish_cases nullish with rfl | rfl <;> rfl

/-- Nothing has no day, which counts as a NaN. -/
theorem date_nullish {a : Operand} (nullish : a.isNullish = true) : date.apply [a] = .ok (.number .nan) := by
  rcases Operand.isNullish_cases nullish with rfl | rfl <;> rfl

/-- A text has a lower case. -/
theorem lower_text (value : String) :
    lower.apply [.text value] = .ok (.text (String.ofList (Text.lower value.toList))) :=
  rfl

/-- A text has a day, or a NaN in its place. -/
theorem date_text (value : String) : date.apply [.text value] = .ok (.ofDay? (Day.ofText? value.toList)) := by
  simp only [apply, List.getD_cons_zero]
  cases Day.ofText? value.toList with
  | none => rfl
  | some day => rfl

/-- The length of an operand may be undefined, but it is no fault. -/
theorem exists_len (a : Operand) : ∃ length, len.apply [a] = .ok length := by
  cases a <;> exact ⟨_, rfl⟩

/-- A text or nothing has a lower case, which is a text or nothing. -/
theorem exists_lower {a : Operand} (textual : a.Textual) :
    ∃ result, lower.apply [a] = .ok result ∧ result.Textual := by
  cases textual with
  | undefined => exact ⟨_, rfl, .undefined⟩
  | null => exact ⟨_, rfl, .undefined⟩
  | text value => exact ⟨_, lower_text value, .text _⟩

/-- A text or nothing has a day, or a NaN in its place. -/
theorem exists_date {a : Operand} (textual : a.Textual) : ∃ result, date.apply [a] = .ok result := by
  cases textual with
  | undefined => exact ⟨_, rfl⟩
  | null => exact ⟨_, rfl⟩
  | text value => exact ⟨_, date_text value⟩

/-- No function fails on a text, or nothing, and a second text. -/
theorem exists_apply (function : Function) {subject : Operand} (textual : subject.Textual) (pattern : String) :
    ∃ result, function.apply [subject, .text pattern] = .ok result := by
  cases function with
  | lower => exact (exists_lower textual).imp fun _ h => h.1
  | date => exact exists_date textual
  | len => exact exists_len subject
  | startsWith | endsWith | contains => cases textual <;> exact ⟨_, rfl⟩

/-- No function finds anything true of nothing. -/
theorem apply_undefined (function : Function) (pattern : Operand) :
    ∃ result, function.apply [.undefined, pattern] = .ok result ∧ result.isTrue = false := by
  cases function <;> exact ⟨_, rfl, rfl⟩

end Function

/-! ### What is refused -/

/-- The type of a value that is neither a text nor null, under all tags. -/
def Value.refusedType? : Value → Option OperandType
  | .null | .text _ => none
  | .bool _ => some .boolean
  | .int _ | .float _ => some .number
  | .list _ => some .list
  | .map _ => some .object
  | .tagged _ value => value.refusedType?

/-- The functions that read texts refuse a value of another type, and name the type. -/
theorem Function.apply_refused {function : Function} (reads : function = .lower ∨ function = .date)
    {type : OperandType} : ∀ value : Value, value.refusedType? = some type →
      function.apply [.ofValue value] = .error (.typeMismatch function type)
  | .tagged _ value, refused => apply_refused reads value refused
  | .bool _, refused | .int _, refused | .float _, refused | .list _, refused | .map _, refused => by
      cases refused
      rcases reads with rfl | rfl <;> rfl

/-- What is not refused is a text or null. -/
theorem Operand.textual_of_accepted : ∀ value : Value, value.refusedType? = none → (ofValue value).Textual
  | .tagged _ value, accepted => textual_of_accepted value accepted
  | .null, _ => .null
  | .text value, _ => .text value

end FilterTree
