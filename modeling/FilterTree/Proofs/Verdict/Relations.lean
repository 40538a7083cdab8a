/-
Module: FilterTree.Proofs.Verdict.Relations
Layer: Proofs
Purpose: Equality and order of operands. They are two tables over the kinds of operands, and both turn texts
  and truth values into numbers; still they say the same. Swapping two operands swaps their order, and two
  operands are equal exactly when they are ordered as equal, except that nullish ones are equal without any
  order. What holds between the six relations follows from these two facts.
Imports: FilterTree.Predicate.Operand
Main exports: Operand.order?_swap, Operand.looseEq_eq_order?, Relation.holds_consistent
-/
import FilterTree.Predicate.Operand

namespace FilterTree

/-! ### Numbers, texts and days -/

/-- Swapping two numbers swaps how they lie to each other. -/
theorem Number.compare?_swap (x y : Number) : y.compare? x = (x.compare? y).map Ordering.swap := by
  rw [compare?, compare?]
  cases x.place with
  | none => cases y.place <;> rfl
  | some m =>
      cases y.place with
      | none => rfl
      | some n => exact congrArg some (Int.compare_swap m n).symm

namespace Text

/-- Swapping two texts swaps their order. -/
theorem compare_swap (x y : List Char) : compareOfLessAndEq y x = (compareOfLessAndEq x y).swap := by
  by_cases less : x < y
  · have notGreater : ¬ y < x := List.lt_asymm less
    have different : y ≠ x := by
      rintro rfl
      exact notGreater less
    simp [compareOfLessAndEq, less, notGreater, different]
  · by_cases greater : y < x
    · have different : x ≠ y := by
        rintro rfl
        exact less greater
      simp [compareOfLessAndEq, less, greater, different]
    · obtain rfl : x = y := List.le_antisymm (List.not_lt.mp greater) (List.not_lt.mp less)
      rw [compareOfLessAndEq, if_neg less, if_pos rfl]
      rfl

/-- Texts are ordered as equal when they are equal. -/
theorem compare_eq_iff (x y : List Char) : compareOfLessAndEq x y = .eq ↔ x = y := by
  by_cases less : x < y
  · have different : x ≠ y := by
      rintro rfl
      exact List.lt_asymm less less
    simp [compareOfLessAndEq, less, different]
  · by_cases same : x = y
    · simp [compareOfLessAndEq, same]
    · simp [compareOfLessAndEq, less, same]

end Text

namespace Day

/-- Swapping two days swaps their order. -/
theorem order_swap (x y : Day) : y.order x = (x.order y).swap := by
  rw [order, order, Ordering.swap_then, Ordering.swap_then, Nat.compare_swap, Nat.compare_swap,
    Nat.compare_swap]

/-- Days are ordered as equal when they are equal. -/
theorem order_eq_iff (x y : Day) : x.order y = .eq ↔ x = y := by
  cases x
  cases y
  simp [order, Ordering.then_eq_eq]

end Day

namespace Operand

/-! ### Pairs of operands -/

/-- The order of the numbers that two operands stand for. -/
def numberOrder? (a b : Operand) : Option Ordering :=
  match a.number?, b.number? with
  | some x, some y => x.compare? y
  | _, _ => none

/-- Two operands that are neither both texts nor both days. -/
structure Mixed (a b : Operand) : Prop where
  texts : ∀ x y, a = .text x → b = .text y → False
  days : ∀ x y, a = .date x → b = .date y → False

theorem Mixed.swap {a b : Operand} (mixed : Mixed a b) : Mixed b a :=
  ⟨fun x y hb ha => mixed.texts y x ha hb, fun x y hb ha => mixed.days y x ha hb⟩

/-- A pair is two texts, two days, or mixed. -/
theorem pair_cases (a b : Operand) :
    (∃ x y, a = .text x ∧ b = .text y) ∨ (∃ x y, a = .date x ∧ b = .date y) ∨ Mixed a b := by
  by_cases texts : ∃ x y, a = .text x ∧ b = .text y
  · exact .inl texts
  · by_cases days : ∃ x y, a = .date x ∧ b = .date y
    · exact .inr (.inl days)
    · exact .inr (.inr ⟨fun x y ha hb => texts ⟨x, y, ha, hb⟩, fun x y ha hb => days ⟨x, y, ha, hb⟩⟩)

/-- An operand without a place among numbers stands for none. -/
theorem number?_of_not_numeric {a : Operand} (h : a.isNumeric = false) : a.number? = none := by
  cases a with
  | number | bool | text => cases h
  | undefined | null | date | list | object => rfl

/-- A mixed pair is ordered as numbers, if at all. -/
theorem order?_of_mixed {a b : Operand} (mixed : Mixed a b) : a.order? b = numberOrder? a b := by
  rw [order?, numberOrder?]
  · cases ha : a.isNumeric with
    | false => rw [number?_of_not_numeric ha]; rfl
    | true =>
        cases hb : b.isNumeric with
        | false => rw [number?_of_not_numeric hb]; cases a.number? <;> rfl
        | true => rfl
  · exact mixed.texts
  · exact mixed.days

theorem numberOrder?_swap (a b : Operand) :
    numberOrder? b a = (numberOrder? a b).map Ordering.swap := by
  rw [numberOrder?, numberOrder?]
  cases a.number? with
  | none => cases b.number? <;> rfl
  | some x =>
      cases b.number? with
      | none => rfl
      | some y => exact x.compare?_swap y

/-- Swapping two operands swaps their order. -/
theorem order?_swap (a b : Operand) : b.order? a = (a.order? b).map Ordering.swap := by
  rcases pair_cases a b with ⟨x, y, rfl, rfl⟩ | ⟨x, y, rfl, rfl⟩ | mixed
  · exact congrArg some (Text.compare_swap x.toList y.toList)
  · exact congrArg some (x.order_swap y)
  · rw [order?_of_mixed mixed, order?_of_mixed mixed.swap, numberOrder?_swap]

/-! ### Equality and order -/

/-- Truth values are equal when the numbers are that they stand for. -/
theorem bool_beq_eq_numberOrder? (x y : Bool) :
    (x == y) = (numberOrder? (.bool x) (.bool y) == some .eq) := by
  cases x <;> cases y <;> decide +kernel

/-- A mixed pair without a nullish operand is equal when it is equal as numbers. -/
theorem looseEq_of_mixed {a b : Operand} (mixed : Mixed a b) (ha : a.isNullish = false)
    (hb : b.isNullish = false) : a.looseEq b = (numberOrder? a b == some .eq) := by
  unfold looseEq
  rw [ha, hb, Bool.or_false, if_neg Bool.false_ne_true]
  split
  · exact (mixed.texts _ _ rfl rfl).elim
  · exact bool_beq_eq_numberOrder? _ _
  · exact (mixed.days _ _ rfl rfl).elim
  · rfl
  · rw [numberOrder?]
    cases a.number? <;> rfl
  · rw [numberOrder?]
    cases a.number? with
    | none => rfl
    | some x => cases b.number? <;> rfl

/-- A nullish operand is ordered to nothing. -/
theorem order?_nullish {a : Operand} (nullish : a.isNullish = true) (b : Operand) : a.order? b = none := by
  cases a with
  | undefined | null => rfl
  | bool | number | text | date | list | object => cases nullish

/-- Two nullish operands are equal. -/
theorem looseEq_nullish {a b : Operand} (ha : a.isNullish = true) (hb : b.isNullish = true) :
    a.looseEq b = true := by
  unfold looseEq
  rw [ha, hb]
  rfl

/-- A nullish operand equals no other. -/
theorem looseEq_of_nullish {a b : Operand} (one : (a.isNullish || b.isNullish) = true)
    (other : (a.isNullish && b.isNullish) = false) : a.looseEq b = false := by
  unfold looseEq
  rw [if_pos one, other]

/-- Two operands that are not both nullish are equal when they are ordered as equal. -/
theorem looseEq_eq_order? {a b : Operand} (h : (a.isNullish && b.isNullish) = false) :
    a.looseEq b = (a.order? b == some .eq) := by
  rcases pair_cases a b with ⟨x, y, rfl, rfl⟩ | ⟨x, y, rfl, rfl⟩ | mixed
  · have texts : (x == y) = (some (compareOfLessAndEq x.toList y.toList) == some .eq) := by
      rw [Bool.eq_iff_iff, beq_iff_eq, beq_iff_eq, Option.some.injEq, Text.compare_eq_iff, String.toList_inj]
    exact texts
  · have days : (x == y) = (some (x.order y) == some .eq) := by
      rw [Bool.eq_iff_iff, beq_iff_eq, beq_iff_eq, Option.some.injEq, Day.order_eq_iff]
    exact days
  · cases ha : a.isNullish with
    | true => rw [order?_nullish ha, looseEq_of_nullish (by rw [ha]; rfl) h]; rfl
    | false =>
        cases hb : b.isNullish with
        | true =>
            rw [order?_swap b a, order?_nullish hb, looseEq_of_nullish (by rw [hb, Bool.or_true]) h]
            rfl
        | false => rw [order?_of_mixed mixed, looseEq_of_mixed mixed ha hb]

/-- Equality does not depend on which operand comes first. -/
theorem looseEq_comm (a b : Operand) : a.looseEq b = b.looseEq a := by
  cases h : a.isNullish && b.isNullish with
  | true =>
      rw [Bool.and_eq_true] at h
      rw [looseEq_nullish h.1 h.2, looseEq_nullish h.2 h.1]
  | false =>
      rw [looseEq_eq_order? h, looseEq_eq_order? (by rw [Bool.and_comm, h]), order?_swap a b]
      cases a.order? b with
      | none => rfl
      | some order => cases order <;> rfl

/-- What is equal and not nullish on both sides is ordered as equal. -/
theorem looseEq_and_not_nullish (a b : Operand) :
    (a.looseEq b && !(a.isNullish && b.isNullish)) = (a.order? b == some .eq) := by
  cases h : a.isNullish && b.isNullish with
  | true =>
      rw [Bool.and_eq_true] at h
      rw [order?_nullish h.1, Bool.not_true, Bool.and_false]
      rfl
  | false => rw [looseEq_eq_order? h, Bool.not_false, Bool.and_true]

/-! ### NaN -/

/-- A NaN is ordered to nothing. -/
theorem order?_nan (b : Operand) : order? (.number .nan) b = none := by
  have mixed : Mixed (.number .nan) b := by
    constructor <;> exact fun _ _ h => nomatch h
  rw [order?_of_mixed mixed, numberOrder?]
  cases b.number? with
  | none => rfl
  | some y => rfl

/-- A NaN equals nothing. -/
theorem looseEq_nan (b : Operand) : looseEq (.number .nan) b = false := by
  rw [looseEq_eq_order? rfl, order?_nan]
  rfl

end Operand

/-! ### The six relations -/

namespace Relation

/-- Whether a relation holds between a nullish operand and another one. -/
def ofNullish (b : Operand) : Relation → Bool
  | .eq => b.isNullish
  | .ne => !b.isNullish
  | .gt | .lt | .ge | .le => false

/-- A nullish operand equals the nullish ones and is ordered to nothing. -/
theorem holds_nullish {a : Operand} (nullish : a.isNullish = true) (b : Operand) (relation : Relation) :
    relation.holds a b = relation.ofNullish b := by
  have order : a.order? b = none := Operand.order?_nullish nullish b
  have equal : a.looseEq b = b.isNullish := by
    cases hb : b.isNullish with
    | true => exact Operand.looseEq_nullish nullish hb
    | false => exact Operand.looseEq_of_nullish (by rw [nullish]; rfl) (by rw [hb, Bool.and_false])
  cases relation <;> simp [holds, ofNullish, order, equal]

/-- A NaN is different from everything and stands in no other relation. -/
theorem holds_nan (b : Operand) (relation : Relation) :
    relation.holds (.number .nan) b = (relation == .ne) := by
  have order : Operand.order? (.number .nan) b = none := Operand.order?_nan b
  have equal : Operand.looseEq (.number .nan) b = false := Operand.looseEq_nan b
  cases relation <;> simp [holds, order, equal]

/-- The six relations between two operands are those of one order, in which a pair may have no place. Equality
    goes both ways, and inequality is what it is not. The orders turn around with the operands. Less, greater
    and equal exclude each other, and at most and at least are less and greater united with equal, where two
    nullish operands, which are equal, do not count. -/
theorem holds_consistent (a b : Operand) :
    let equal : Bool := Relation.eq.holds a b && !(a.isNullish && b.isNullish)
    (Relation.eq.holds a b = Relation.eq.holds b a ∧ Relation.ne.holds a b = !Relation.eq.holds a b) ∧
      (Relation.gt.holds a b = Relation.lt.holds b a ∧ Relation.ge.holds a b = Relation.le.holds b a) ∧
      (¬ (Relation.lt.holds a b ∧ Relation.gt.holds a b) ∧ ¬ (Relation.lt.holds a b ∧ equal) ∧
        ¬ (Relation.gt.holds a b ∧ equal)) ∧
      Relation.le.holds a b = (Relation.lt.holds a b || equal) ∧
      Relation.ge.holds a b = (Relation.gt.holds a b || equal) := by
  intro equal
  have hequal : equal = (a.order? b == some .eq) := Operand.looseEq_and_not_nullish a b
  have hswap : b.order? a = (a.order? b).map Ordering.swap := Operand.order?_swap a b
  refine ⟨⟨Operand.looseEq_comm a b, rfl⟩, ?_, ?_, ?_, ?_⟩
  · simp only [holds, hswap]
    cases a.order? b with
    | none => exact ⟨rfl, rfl⟩
    | some order => cases order <;> exact ⟨rfl, rfl⟩
  · simp only [holds, hequal]
    cases a.order? b with
    | none => decide
    | some order => cases order <;> decide
  · rw [hequal]
    rfl
  · rw [hequal]
    rfl

end Relation

end FilterTree
