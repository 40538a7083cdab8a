/-
Module: FilterTree.Proofs.Verdict.Comparisons
Layer: Proofs
Purpose: The verdict of one comparison on a record. A path follows the names of its steps from the record to a
  value, or leads nowhere. What the comparison makes of the record depends on nothing but the operand that its
  path reaches: every question has an answer to an operand, and the predicate of a comparison that stands alone
  gives that answer.
Imports: FilterTree.Proofs.Tree.RoundTrip, FilterTree.Predicate.Eval
Main exports: Value.Leads, Value.LeadsNowhere, Value.ReachesNothing, Value.resolve_isNullish_iff, Check.answer,
  Check.verdict_expr
-/
import FilterTree.Proofs.Tree.RoundTrip
import FilterTree.Predicate.Eval

namespace FilterTree

open Predicate (Fault)

namespace Value

/-! ### Parts -/

/-- A value has a part under a name: the item of a list with that number, or the entry of a mapping. Tags on the
    value do not count. -/
inductive Has (value : Value) (name : String) (part : Value) : Prop where
  | item {items : List Value} {index : Nat} (listed : value.untagged = .list items)
      (numbered : Text.unsigned? name.toList = some index) (found : items[index]? = some part)
  | entry {entries : List (Value × Value)} (mapped : value.untagged = .map entries)
      (found : entry? name entries = some part)

/-- A value has no part under a name: it has no parts at all, or it is a list and the name is no number or one
    behind the last item, or it is a mapping without the name among its keys. -/
inductive Lacks (value : Value) (name : String) : Prop where
  | single (notList : ∀ items, value.untagged ≠ .list items) (notMap : ∀ entries, value.untagged ≠ .map entries)
  | unnumbered {items : List Value} (listed : value.untagged = .list items)
      (word : Text.unsigned? name.toList = none)
  | beyond {items : List Value} {index : Nat} (listed : value.untagged = .list items)
      (numbered : Text.unsigned? name.toList = some index) (behind : items.length ≤ index)
  | missing {entries : List (Value × Value)} (mapped : value.untagged = .map entries)
      (absent : ∀ part, (.text name, part) ∉ entries)

/-- No entry is found exactly when the name is no key. -/
theorem entry?_eq_none_iff (name : String) (entries : List (Value × Value)) :
    entry? name entries = none ↔ ∀ part, (.text name, part) ∉ entries := by
  fun_induction entry? name entries with
  | case1 => simp
  | case2 part rest => exact ⟨(nomatch ·), fun absent => absurd List.mem_cons_self (absent part)⟩
  | case3 part rest key other ih => simp [ih, Ne.symm other]
  | case4 entry rest noText ih =>
      have different : ∀ part, (.text name, part) ≠ entry := fun part same => noText name part same.symm
      simp [ih, different]

/-- Under a name there is a part, or there is none. -/
theorem has_or_lacks (value : Value) (name : String) : (∃ part, value.Has name part) ∨ value.Lacks name := by
  cases shape : value.untagged with
  | list items =>
      cases numbered : Text.unsigned? name.toList with
      | none => exact .inr (.unnumbered shape numbered)
      | some index =>
          cases found : items[index]? with
          | none => exact .inr (.beyond shape numbered (List.getElem?_eq_none_iff.mp found))
          | some part => exact .inl ⟨part, .item shape numbered found⟩
  | map entries =>
      cases found : entry? name entries with
      | none => exact .inr (.missing shape ((entry?_eq_none_iff name entries).mp found))
      | some part => exact .inl ⟨part, .entry shape found⟩
  | null | bool | int | float | text | tagged => exact .inr (.single (by simp [shape]) (by simp [shape]))

/-- What a value has under a name is the part that the name selects. -/
theorem Has.part?_eq {value part : Value} {name : String} (has : value.Has name part) :
    value.part? name = some part := by
  cases has with
  | item listed numbered found => rw [part?, listed]; simp [numbered, found]
  | entry mapped found => rw [part?, mapped]; exact found

/-- Where a value lacks a name, the name selects nothing. -/
theorem Lacks.part?_eq {value : Value} {name : String} (lacks : value.Lacks name) :
    value.part? name = none := by
  cases lacks with
  | single notList notMap =>
      rw [part?]
      split
      · exact absurd ‹_› (notList _)
      · exact absurd ‹_› (notMap _)
      · rfl
  | unnumbered listed word => rw [part?, listed]; simp [word]
  | beyond listed numbered behind => rw [part?, listed]; simp [numbered, behind]
  | missing mapped absent => rw [part?, mapped]; exact (entry?_eq_none_iff name _).mpr absent

/-! ### Paths -/

/-- The steps lead from a value to another one, part by part. -/
inductive Leads : Value → List String → Value → Prop where
  | here (value : Value) : Leads value [] value
  | step {value part last : Value} {name : String} {names : List String} (has : value.Has name part)
      (behind : Leads part names last) : Leads value (name :: names) last

/-- The steps lead nowhere: at one of them there is no part under its name. -/
inductive LeadsNowhere : Value → List String → Prop where
  | here {value : Value} {name : String} {names : List String} (lacks : value.Lacks name) :
      LeadsNowhere value (name :: names)
  | later {value part : Value} {name : String} {names : List String} (has : value.Has name part)
      (behind : LeadsNowhere part names) : LeadsNowhere value (name :: names)

/-- The steps reach nothing: they lead nowhere, or to a null. -/
def ReachesNothing (value : Value) (names : List String) : Prop :=
  value.LeadsNowhere names ∨ ∃ last, value.Leads names last ∧ last.untagged = .null

/-- A path reaches the value that its steps lead to. -/
theorem resolve_of_leads {value last : Value} {names : List String} (leads : value.Leads names last) :
    value.resolve names = .ofValue last := by
  induction leads with
  | here value => rfl
  | step has behind ih => rw [resolve, has.part?_eq]; exact ih

/-- A path that leads nowhere is undefined. -/
theorem resolve_of_leadsNowhere {value : Value} {names : List String} (nowhere : value.LeadsNowhere names) :
    value.resolve names = .undefined := by
  induction nowhere with
  | here lacks => rw [resolve, lacks.part?_eq]
  | later has behind ih => rw [resolve, has.part?_eq]; exact ih

/-- A path leads to a value, or nowhere. -/
theorem leads_or_leadsNowhere (value : Value) (names : List String) :
    (∃ last, value.Leads names last) ∨ value.LeadsNowhere names := by
  induction names generalizing value with
  | nil => exact .inl ⟨value, .here value⟩
  | cons name names ih =>
      rcases value.has_or_lacks name with ⟨part, has⟩ | lacks
      · rcases ih part with ⟨last, leads⟩ | nowhere
        · exact .inl ⟨last, .step has leads⟩
        · exact .inr (.later has nowhere)
      · exact .inr (.here lacks)

end Value

namespace Operand

/-- Of all values, only null is a nullish operand. -/
theorem ofValue_isNullish_iff : ∀ value : Value, (ofValue value).isNullish = true ↔ value.untagged = .null
  | .tagged _ value => ofValue_isNullish_iff value
  | .null => iff_of_true rfl rfl
  | .bool _ | .int _ | .float _ | .text _ | .list _ | .map _ =>
      iff_of_false Bool.false_ne_true (nomatch ·)

/-- A value that is a text under its tags is that text as an operand. -/
theorem ofValue_of_text {content : String} : ∀ value : Value, value.untagged = .text content →
    ofValue value = .text content
  | .tagged _ value, h => ofValue_of_text value h
  | .text own, h => congrArg ofValue (show Value.text own = .text content from h)

end Operand

/-- A path has a nullish operand exactly where it reaches nothing. -/
theorem Value.resolve_isNullish_iff (value : Value) (names : List String) :
    (value.resolve names).isNullish = true ↔ value.ReachesNothing names := by
  constructor
  · intro nullish
    rcases value.leads_or_leadsNowhere names with ⟨last, leads⟩ | nowhere
    · rw [resolve_of_leads leads, Operand.ofValue_isNullish_iff] at nullish
      exact .inr ⟨last, leads, nullish⟩
    · exact .inl nowhere
  · rintro (nowhere | ⟨last, leads, null⟩)
    · rw [resolve_of_leadsNowhere nowhere]
      rfl
    · rw [resolve_of_leads leads, Operand.ofValue_isNullish_iff]
      exact null

/-! ### Answers -/

namespace Check

/-- The answer of a question with a value to the operand that its field reaches. -/
def answer (value : Scalar) (reached : Operand) : Check → Except Fault Bool
  | .compared relation => .ok (relation.holds reached (.ofScalar value))
  | .constant relation scalar => .ok (relation.holds reached (.ofScalar scalar))
  | .size relation => do
    let length ← Function.len.apply [reached]
    .ok (relation.holds length (.number .zero))
  | .day relation => do
    let left ← Function.date.apply [reached]
    let right ← Function.date.apply [.ofScalar value]
    .ok (relation.holds left right)
  | .matching function negated => do
    let subject ← Function.lower.apply [reached]
    let pattern ← Function.lower.apply [.ofScalar value]
    let result ← function.apply [subject, pattern]
    .ok (if negated then !result.isTrue else result.isTrue)

/-- The expression of a question has the verdict that the question answers to what the path reaches. -/
theorem verdict_expr (check : Check) (steps : List String) (value : Scalar) (record : Value) :
    (check.expr steps value).verdict record = check.answer value (record.resolve steps) := by
  -- Both sides take the same steps in the same order; they differ only in how the steps are nested.
  cases check with
  | compared | constant => rfl
  | size | day =>
      simp only [expr, answer, Expr.verdict, Expr.eval, Expr.evalAll, bind_assoc]
      rfl
  | matching function negated =>
      cases negated with
      | false =>
          simp only [expr, answer, if_neg Bool.false_ne_true, Expr.verdict, Expr.eval, Expr.evalAll, bind_assoc]
          rfl
      | true =>
          simp only [expr, answer, if_true, Expr.verdict, Expr.eval, Expr.evalAll, bind_assoc]
          rfl

end Check

end FilterTree
