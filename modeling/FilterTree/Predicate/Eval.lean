/-
Module: FilterTree.Predicate.Eval
Layer: Predicate
Purpose: Deciding predicates on records. A path that leads nowhere is undefined; the functions of texts pass
  nullish operands on and refuse other types; `&&` and `||` look at their right side only when the left one
  does not decide. A list of records is decided one by one, up to the first fault.
Imports: FilterTree.Predicate.Operand, FilterTree.Predicate.Parser, FilterTree.Text.Lowercase
Main exports: Value.resolve, Function.apply, Expr.eval, Expr.verdict, Predicate.select
-/
import FilterTree.Predicate.Operand
import FilterTree.Predicate.Parser
import FilterTree.Text.Lowercase

namespace FilterTree

open Predicate (Fault)

/-- What a path reaches in a value. -/
def Value.resolve (value : Value) : List String → Operand
  | [] => .ofValue value
  | name :: names =>
    match value.part? name with
    | some part => part.resolve names
    | none => .undefined

namespace Function

/-- The test of two texts behind a function, where it has one. -/
def test (function : Function) (subject pattern : List Char) : Bool :=
  match function with
  | .startsWith => Text.startsWith subject pattern
  | .endsWith => Text.endsWith subject pattern
  | .contains => Text.contains subject pattern
  | _ => false

/-- A test of two texts on operands. A nullish subject has no answer, whatever the pattern is. -/
def match? (function : Function) (subject pattern : Operand) : Except Fault Operand :=
  match subject with
  | .text subject =>
    match pattern with
    | .text pattern => .ok (.bool (function.test subject.toList pattern.toList))
    | other => .error (.typeMismatch function other.type)
  | .undefined => .ok .undefined
  | .null => .ok .undefined
  | other => .error (.typeMismatch function other.type)

/-- The value of a function on its arguments; a missing argument counts as undefined. -/
def apply (function : Function) (args : List Operand) : Except Fault Operand :=
  let subject := args.getD 0 .undefined
  let pattern := args.getD 1 .undefined
  match function with
  | .lower =>
    match subject with
    | .text value => .ok (.text (String.ofList (Text.lower value.toList)))
    | .undefined => .ok .undefined
    | .null => .ok .undefined
    | other => .error (.typeMismatch .lower other.type)
  | .len =>
    match subject with
    | .text value => .ok (.number (Number.ofNat value.toList.length))
    | .list items => .ok (.number (Number.ofNat items.length))
    | _ => .ok .undefined
  | .date =>
    match subject with
    | .text value =>
      match Day.ofText? value.toList with
      | some day => .ok (.date day)
      | none => .ok (.number .nan)
    | .date day => .ok (.date day)
    | .undefined => .ok (.number .nan)
    | .null => .ok (.number .nan)
    | other => .error (.typeMismatch .date other.type)
  | function => function.match? subject pattern

end Function

namespace Expr

mutual

/-- The operand that an expression has on a record. -/
def eval (record : Value) : Expr → Except Fault Operand
  | .literal value => .ok (.ofScalar value)
  | .path names => .ok (record.resolve names)
  | .call function args => do
    let args ← evalAll record args
    function.apply args
  | .not operand => do
    let operand ← eval record operand
    .ok (.bool (!operand.isTrue))
  | .compare relation left right => do
    let left ← eval record left
    let right ← eval record right
    .ok (.bool (relation.holds left right))
  | .and left right => do
    let left ← eval record left
    if left.isTrue then
      let right ← eval record right
      .ok (.bool right.isTrue)
    else .ok (.bool false)
  | .or left right => do
    let left ← eval record left
    if left.isTrue then .ok (.bool true)
    else
      let right ← eval record right
      .ok (.bool right.isTrue)

/-- The operands of several expressions, up to the first fault. -/
def evalAll (record : Value) : List Expr → Except Fault (List Operand)
  | [] => .ok []
  | arg :: args => do
    let operand ← eval record arg
    let operands ← evalAll record args
    .ok (operand :: operands)

end

/-- Whether a predicate is true of a record. -/
def verdict (expr : Expr) (record : Value) : Except Fault Bool := do
  let operand ← expr.eval record
  .ok operand.isTrue

end Expr

namespace Predicate

/-- The records that a predicate is true of, in their order, up to the first fault. `view` shows a record as
    a value, or gives the reason why it cannot. -/
def keep {α : Type} (view : α → Except String Value) (expr : Expr) : List α → Except Fault (List α)
  | [] => .ok []
  | record :: rest => do
    let value ← (view record).mapError Fault.unreadableRecord
    let matched ← expr.verdict value
    let others ← keep view expr rest
    .ok (if matched then record :: others else others)

/-- The records that a predicate text is true of. A blank text keeps every record and looks at none. -/
def select {α : Type} (view : α → Except String Value) (text : String) (records : List α) :
    Except Fault (List α) :=
  if Text.isBlankText text.toList then .ok records
  else do
    let expr ← parse text
    keep view expr records

end Predicate

end FilterTree
