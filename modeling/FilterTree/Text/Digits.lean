/-
Module: FilterTree.Text.Digits
Layer: Text
Purpose: Natural numbers from their digits.
Imports: none
Main exports: Text.digit?, Text.digitsValue, Text.natural?, Text.unsigned?
-/

namespace FilterTree.Text

/-- The value of a digit in a base of at most sixteen; letters count on from ten in either case. -/
def digit? (base : Nat) (c : Char) : Option Nat :=
  let value :=
    if c.isDigit then c.toNat - '0'.toNat
    else if 'a' ≤ c && c ≤ 'f' then c.toNat - 'a'.toNat + 10
    else if 'A' ≤ c && c ≤ 'F' then c.toNat - 'A'.toNat + 10
    else base
  if value < base then some value else none

/-- The value of decimal digits that follow a number that was read before. -/
def digitsValue (before : Nat) (digits : List Char) : Nat :=
  digits.foldl (fun value c => 10 * value + (c.toNat - '0'.toNat)) before

/-- The value of digits in a base; there is at least one. -/
def natural? (base : Nat) : List Char → Option Nat
  | [] => none
  | c :: rest =>
    (c :: rest).foldl (fun value c => do return base * (← value) + (← digit? base c)) (some 0)

/-- A decimal number of at least one digit, with an optional plus in front. -/
def unsigned? : List Char → Option Nat
  | '+' :: digits => natural? 10 digits
  | digits => natural? 10 digits

end FilterTree.Text
