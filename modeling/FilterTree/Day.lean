/-
Module: FilterTree.Day
Layer: Data
Purpose: Calendar days: reading one from the front of a date or timestamp, and the order of days.
Imports: FilterTree.Text.Basic, FilterTree.Text.Blank, FilterTree.Text.Digits
Main exports: Day, Day.ofText?, Day.order
-/
import FilterTree.Text.Basic
import FilterTree.Text.Blank
import FilterTree.Text.Digits

namespace FilterTree

/-- A day by its year, month and day of the month. Months have no lengths of their own here. -/
structure Day where
  year : Nat
  month : Nat
  day : Nat
deriving DecidableEq, Repr

namespace Day

/-- A decimal number that is at most `limit`: digits, with an optional plus in front. -/
def number? (limit : Nat) (text : List Char) : Option Nat :=
  (Text.unsigned? text).filter (· ≤ limit)

/-- The part of a text before its first `T`, without blanks at its ends. -/
def dayPart (text : List Char) : List Char :=
  Text.trim (text.takeWhile (· != 'T'))

/-- The day that a date or timestamp begins with: year, month and day of the month between two hyphens. -/
def ofText? (text : List Char) : Option Day :=
  match Text.splitOn '-' (dayPart text) with
  | [year, month, day] => do
    let year ← number? 2147483647 year
    let month ← number? 255 month
    let day ← number? 255 day
    if 1 ≤ month ∧ month ≤ 12 ∧ 1 ≤ day ∧ day ≤ 31 then some ⟨year, month, day⟩ else none
  | _ => none

/-- Days are ordered by year, then month, then day of the month. -/
def order (a b : Day) : Ordering :=
  (compare a.year b.year).then ((compare a.month b.month).then (compare a.day b.day))

end Day

end FilterTree
