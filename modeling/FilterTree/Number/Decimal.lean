/-
Module: FilterTree.Number.Decimal
Layer: Number
Purpose: Numbers from decimal text. The text is an optional sign, then digits with at most one point among
  or around them and an optional power of ten, or one of the words `inf`, `infinity` and `nan` in any
  letter case. The result is the number nearest to what the text says.
Imports: FilterTree.Number.Basic, FilterTree.Text.Digits
Main exports: Number.ofDecimal, Number.ofText?
-/
import FilterTree.Number.Basic
import FilterTree.Text.Digits

namespace FilterTree.Number

open Text (digitsValue)

/-- The number nearest to `mantissa * 10 ^ exponent`. A magnitude of `10 ^ 400` or more rounds to infinity
    and one below `10 ^ (-400)` to zero, so neither power is ever computed. -/
def ofDecimal (negative : Bool) (mantissa : Nat) (exponent : Int) : Number :=
  let size : Int := (Nat.toDigits 10 mantissa).length + exponent
  if mantissa = 0 || size < -400 then ofRank negative 0
  else if 400 < size then .infinity negative
  else match exponent with
    | .ofNat up => ofMagnitude negative (mantissa * Nat.pow 10 up) 1
    | .negSucc down => ofMagnitude negative mantissa (Nat.pow 10 (down + 1))

/-- Takes an optional sign off the front; the flag says whether it was a minus. -/
def takeSign : List Char → Bool × List Char
  | '-' :: rest => (true, rest)
  | '+' :: rest => (false, rest)
  | rest => (false, rest)

/-- The power of ten at the end of a decimal: nothing, or an `e` in either case, an optional sign and at
    least one digit. -/
def exponent? : List Char → Option Int
  | [] => some 0
  | c :: rest =>
    let (negative, digits) := takeSign rest
    if (c == 'e' || c == 'E') && !digits.isEmpty && digits.all Char.isDigit then
      let size : Int := digitsValue 0 digits
      some (if negative then -size else size)
    else none

/-- An unsigned decimal, given the sign that stood before it. There is at least one digit before or after
    the point. -/
def decimal? (negative : Bool) (text : List Char) : Option Number :=
  let whole := text.takeWhile Char.isDigit
  let afterWhole := text.dropWhile Char.isDigit
  let (fraction, afterFraction) :=
    match afterWhole with
    | '.' :: rest => (rest.takeWhile Char.isDigit, rest.dropWhile Char.isDigit)
    | rest => ([], rest)
  if whole.isEmpty && fraction.isEmpty then none
  else
    (exponent? afterFraction).map fun exponent =>
      ofDecimal negative (digitsValue (digitsValue 0 whole) fraction) (exponent - fraction.length)

/-- The words for values that no digits spell. -/
def word? (negative : Bool) (text : List Char) : Option Number :=
  let folded := text.map Char.toLower
  if folded = ['i', 'n', 'f'] || folded = ['i', 'n', 'f', 'i', 'n', 'i', 't', 'y'] then
    some (.infinity negative)
  else if folded = ['n', 'a', 'n'] then some .nan
  else none

/-- Reads a whole text as a number. -/
def ofText? (text : List Char) : Option Number :=
  let (negative, rest) := takeSign text
  (decimal? negative rest).orElse fun _ => word? negative rest

end FilterTree.Number
