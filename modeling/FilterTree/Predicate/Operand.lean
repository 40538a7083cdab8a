/-
Module: FilterTree.Predicate.Operand
Layer: Predicate
Purpose: What predicates compute with, and the relations between such operands. A list carries what stands in it,
  and a mapping nothing.
Imports: FilterTree.Predicate.Fault, FilterTree.Value, FilterTree.Day, FilterTree.Number.Decimal
Main exports: Operand, Operand.ofValue, Operand.ofScalar, Operand.isTrue, Operand.looseEq, Operand.order?,
  Relation.holds
-/
import FilterTree.Predicate.Fault
import FilterTree.Value
import FilterTree.Day
import FilterTree.Number.Decimal

namespace FilterTree

/-- A value that a part of a predicate has on a record. -/
inductive Operand where
  | undefined
  | null
  | bool (value : Bool)
  | number (value : Number)
  | text (value : String)
  | date (value : Day)
  | list (items : List Operand)
  | object
deriving Repr

namespace Operand

mutual

/-- The operand that a value of a record counts as; tags do not count. -/
def ofValue : Value → Operand
  | .null => .null
  | .bool value => .bool value
  | .int value => .number (Number.ofInt value)
  | .float value => .number value
  | .text value => .text value
  | .list items => .list (ofValues items)
  | .map _ => .object
  | .tagged _ value => ofValue value

/-- The operands that several values count as. -/
def ofValues : List Value → List Operand
  | [] => []
  | item :: rest => ofValue item :: ofValues rest

end

/-- A list of values counts as a list of one operand for each. -/
@[simp] theorem length_ofValues (items : List Value) : (ofValues items).length = items.length := by
  induction items with
  | nil => rfl
  | cons item rest ih => rw [ofValues, List.length_cons, List.length_cons, ih]

/-- The operand of a literal. -/
def ofScalar : Scalar → Operand
  | .text value => .text value
  | .number value => .number value
  | .bool value => .bool value
  | .null => .null
  | .undefined => .undefined

/-- The type of an operand. -/
def type : Operand → Predicate.OperandType
  | .undefined => .undefined
  | .null => .null
  | .bool _ => .boolean
  | .number _ => .number
  | .text _ => .text
  | .date _ => .date
  | .list _ => .list
  | .object => .object

/-- Neither a null nor an undefined operand is anything. -/
def isNullish : Operand → Bool
  | .undefined => true
  | .null => true
  | _ => false

/-- Which operands count as true. -/
def isTrue : Operand → Bool
  | .undefined => false
  | .null => false
  | .bool value => value
  | .number value => value.isTrue
  | .text value => !value.isEmpty
  | .date _ => true
  | .list _ => true
  | .object => true

/-- A truth value counts as itself. -/
@[simp] theorem isTrue_bool (value : Bool) : (bool value).isTrue = value := rfl

/-- The number that an operand stands for. A blank text is zero, and another text is read without the blanks
    at its ends. -/
def number? : Operand → Option Number
  | .number value => some value
  | .bool value => some (if value then .one else .zero)
  | .text value =>
    if Text.isBlankText value.toList then some .zero else Number.ofText? (Text.trim value.toList)
  | _ => none

/-- Equality across types. Nullish operands equal each other and nothing else; lists and mappings equal
    nothing; what is left is equal as texts, truth values or days, or else as numbers. -/
def looseEq (a b : Operand) : Bool :=
  if a.isNullish || b.isNullish then a.isNullish && b.isNullish
  else
    match a, b with
    | .text x, .text y => x == y
    | .bool x, .bool y => x == y
    | .date x, .date y => x == y
    | .date _, _ => false
    | _, .date _ => false
    | a, b =>
      match a.number?, b.number? with
      | some x, some y => x.same y
      | _, _ => false

/-- Whether an operand has a place among numbers: numbers, truth values and texts have. -/
def isNumeric : Operand → Bool
  | .number _ => true
  | .bool _ => true
  | .text _ => true
  | _ => false

/-- The order of two operands. Texts are ordered by their characters and days by the calendar; numbers, truth
    values and texts among each other as numbers; nothing else is ordered. -/
def order? (a b : Operand) : Option Ordering :=
  match a, b with
  | .text x, .text y => some (compareOfLessAndEq x.toList y.toList)
  | .date x, .date y => some (x.order y)
  | a, b =>
    if a.isNumeric && b.isNumeric then
      match a.number?, b.number? with
      | some x, some y => x.compare? y
      | _, _ => none
    else none

end Operand

/-- Whether a relation holds between two operands. -/
def Relation.holds (a b : Operand) : Relation → Bool
  | .eq => a.looseEq b
  | .ne => !a.looseEq b
  | .gt => a.order? b == some .gt
  | .lt => a.order? b == some .lt
  | .ge => a.order? b == some .gt || a.order? b == some .eq
  | .le => a.order? b == some .lt || a.order? b == some .eq

end FilterTree
