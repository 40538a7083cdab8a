/-
Module: FilterTree.Number.Basic
Layer: Number
Purpose: Binary floating-point numbers of 64 bits as plain data, with exact rounding and comparison.
  A finite number is its sign and its rank, the place of its magnitude among all finite magnitudes in
  ascending order, so every value of the type is a number and equal numbers are equal terms. Rounding
  picks the nearest magnitude and, halfway, the even rank. Comparison follows the order of the reals,
  with one zero, and holds a NaN apart from everything.
Imports: none
Main exports: Number, Number.units, Number.nearestRank, Number.ofMagnitude, Number.ofInt,
  Number.compare?, Number.same
-/

namespace FilterTree

/-- The number of finite magnitudes, which is also the rank that infinity would have. -/
abbrev Number.rankBound : Nat := 2047 * Nat.pow 2 52

/-- A binary floating-point number of 64 bits. The magnitudes of the finite ones are numbered from zero
    in ascending order. -/
inductive Number where
  | nan
  | infinity (negative : Bool)
  | finite (negative : Bool) (rank : Fin Number.rankBound)
deriving DecidableEq, Repr

namespace Number

/-- Every finite magnitude is a whole number of units, and `unitsPerOne` units make the number one. -/
def unitsPerOne : Nat := Nat.pow 2 1074

/-- The magnitude with the given rank, in units. The first `2 ^ 53` magnitudes lie one unit apart, and the
    distance doubles after every further `2 ^ 52` of them. -/
def units (rank : Nat) : Nat :=
  let doublings := rank / Nat.pow 2 52 - 1
  (rank - doublings * Nat.pow 2 52) * Nat.pow 2 doublings

/-- The whole number nearest to `num / den`; of two equally near ones the even. -/
def roundEven (num den : Nat) : Nat :=
  let below := num / den
  let rest := num % den
  if 2 * rest < den then below
  else if den < 2 * rest then below + 1
  else if below % 2 = 0 then below else below + 1

/-- The rank of the magnitude nearest to `num / den` units; of two equally near ones the even rank. The
    count of doublings is the one at which `num / den` keeps 53 binary digits. -/
def nearestRank (num den : Nat) : Nat :=
  let doublings := (num / den).log2 - 52
  doublings * Nat.pow 2 52 + roundEven num (den * Nat.pow 2 doublings)

/-- The number with the given sign and rank, infinite from `rankBound` on. -/
def ofRank (negative : Bool) (rank : Nat) : Number :=
  if h : rank < rankBound then .finite negative ⟨rank, h⟩ else .infinity negative

/-- The number nearest to `num / den`, with the given sign. -/
def ofMagnitude (negative : Bool) (num den : Nat) : Number :=
  ofRank negative (nearestRank (num * unitsPerOne) den)

/-- The number nearest to an integer; zero gets no sign. -/
def ofInt (n : Int) : Number :=
  ofMagnitude (decide (n < 0)) n.natAbs 1

/-- The number nearest to a natural number. -/
def ofNat (n : Nat) : Number :=
  ofMagnitude false n 1

/-- Zero without a sign. -/
def zero : Number := .finite false ⟨0, by decide⟩

/-- One. -/
def one : Number := ofNat 1

/-- Neither NaN nor an infinity. -/
def isFinite : Number → Bool
  | .finite _ _ => true
  | _ => false

/-- A place in the order of the reals, with the infinities at its two ends and both zeros at one place.
    A NaN has none. -/
def place : Number → Option Int
  | .nan => none
  | .infinity negative => some (if negative then -rankBound else rankBound)
  | .finite negative rank => some (if negative then -rank.val else rank.val)

/-- How two numbers lie to each other; a NaN lies nowhere. -/
def compare? (a b : Number) : Option Ordering :=
  match a.place, b.place with
  | some x, some y => some (compare x y)
  | _, _ => none

/-- Equality of values: the zeros are equal, and a NaN equals nothing. -/
def same (a b : Number) : Bool :=
  a.compare? b == some .eq

/-- A number counts as true unless it is a zero or a NaN. -/
def isTrue : Number → Bool
  | .nan => false
  | .infinity _ => true
  | .finite _ rank => rank.val != 0

end Number

end FilterTree
