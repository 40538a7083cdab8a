/-
Module: FilterTree.Yaml.Plain
Layer: Yaml
Purpose: What plain scalars stand for: null, a truth value, an integer in one of four bases, a decimal number,
  or else a text. Digits behind a leading zero are a text, and so is a decimal too large for a finite number.
Imports: FilterTree.Value, FilterTree.Number.Decimal
Main exports: Yaml.isNull, Yaml.bool?, Yaml.int?, Yaml.float?, Yaml.plainValue?
-/
import FilterTree.Value
import FilterTree.Number.Decimal

namespace FilterTree.Yaml

/-- The words for null. Nothing at all stands for null too, but is not a word. -/
def isNull (text : List Char) : Bool :=
  ["~", "null", "Null", "NULL"].any (·.toList == text)

/-- The words for truth values. -/
def bool? (text : List Char) : Option Bool :=
  if ["true", "True", "TRUE"].any (·.toList == text) then some true
  else if ["false", "False", "FALSE"].any (·.toList == text) then some false
  else none

/-- Takes a sign off the front. -/
def dropSign : List Char → List Char
  | '-' :: rest => rest
  | '+' :: rest => rest
  | text => text

/-- Whether a text is digits behind a leading zero, perhaps with a sign, which makes it no number. -/
def isPaddedDigits (text : List Char) : Bool :=
  match dropSign text with
  | '0' :: c :: rest => (c :: rest).all Char.isDigit
  | _ => false

/-- The magnitude of an integer without its sign: with the mark of a base, or in decimal. -/
def magnitude? : List Char → Option Nat
  | '0' :: 'x' :: rest => Text.natural? 16 rest
  | '0' :: 'o' :: rest => Text.natural? 8 rest
  | '0' :: 'b' :: rest => Text.natural? 2 rest
  | text => if isPaddedDigits text then none else Text.natural? 10 text

/-- An integer of any size. -/
def int? (text : List Char) : Option Int :=
  match text with
  | '-' :: rest => (magnitude? rest).map fun magnitude => -(magnitude : Int)
  | '+' :: rest => (magnitude? rest).map Int.ofNat
  | rest => (magnitude? rest).map Int.ofNat

/-- A decimal number that is finite, or one of the words for infinities and for what is no number. -/
def float? (text : List Char) : Option Number :=
  if [".nan", ".NaN", ".NAN"].any (·.toList == text) then some .nan
  else if ["-.inf", "-.Inf", "-.INF"].any (·.toList == text) then some (.infinity true)
  else
    let unsigned := match text with
      | '+' :: rest => rest
      | rest => rest
    if [".inf", ".Inf", ".INF"].any (·.toList == unsigned) then some (.infinity false)
    else if text.head? == some '+' && (unsigned.head? == some '+' || unsigned.head? == some '-') then none
    else (Number.ofText? unsigned).filter Number.isFinite

/-- Whether an integer has 64 bits, with a sign or without. -/
def isWord (value : Int) : Bool :=
  let words : Int := UInt64.size
  value < words && -words ≤ 2 * value

/-- Whether an integer has 128 bits, with a sign or without. -/
def isDoubleWord (value : Int) : Bool :=
  let words : Int := UInt64.size * UInt64.size
  value < words && -words ≤ 2 * value

/-- What an integer stands for: itself if it has 64 bits, and nothing if it has 128. `none` outside says that
    it counts as no integer at all. -/
def intValue? (text : List Char) : Option (Option Value) :=
  (int? text).bind fun value =>
    if isWord value then some (some (.int value))
    else if isDoubleWord value then some none
    else none

/-- What a plain scalar stands for; integers that are too wide stand for nothing. -/
def plainValue? (text : List Char) : Option Value :=
  if text.isEmpty || isNull text then some .null
  else
    match bool? text with
    | some value => some (.bool value)
    | none =>
      match intValue? text with
      | some value => value
      | none =>
        if isPaddedDigits text then some (.text (String.ofList text))
        else
          match float? text with
          | some value => some (.float value)
          | none => some (.text (String.ofList text))

end FilterTree.Yaml
