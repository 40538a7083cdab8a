/-
Module: FilterTree.Number.Shortest
Layer: Number
Purpose: The text of a number: the fewest decimal digits that read back as the same number, written out in
  positional notation whatever the size, without a point when the number is whole.
Imports: FilterTree.Number.Basic
Main exports: Number.shortest, Number.text
-/
import FilterTree.Number.Basic

namespace FilterTree.Number

/-!
### The search

A decimal with few digits is a multiple of a large power of ten. The search goes down through the powers of
ten and looks on each of these grids at the two multiples next to the magnitude. The first grid on which one
of them rounds to the same rank gives the shortest decimal. If both do, the nearer one is taken, and the
upper one when they are equally near.
-/

/-- `count * 10 ^ power` units-per-one, as a numerator and a denominator in units. -/
def gridPoint (count : Nat) : Int → Nat × Nat
  | .ofNat up => (count * Nat.pow 10 up * unitsPerOne, 1)
  | .negSucc down => (count * unitsPerOne, Nat.pow 10 (down + 1))

/-- Whether the decimal `count * 10 ^ power` rounds to the magnitude with the given rank. -/
def roundsTo (rank count : Nat) (power : Int) : Bool :=
  let (num, den) := gridPoint count power
  nearestRank num den == rank

/-- The multiple of `10 ^ power` just below a magnitude, and what is left above it as a numerator and a
    denominator. -/
def gridBelow (rank : Nat) : Int → Nat × Nat × Nat
  | .ofNat up =>
    let den := Nat.pow 10 up * unitsPerOne
    (units rank / den, units rank % den, den)
  | .negSucc down =>
    let num := units rank * Nat.pow 10 (down + 1)
    (num / unitsPerOne, num % unitsPerOne, unitsPerOne)

/-- The multiple of `10 ^ power` to try for a magnitude: the one below if it rounds to the magnitude and the
    one above does not or is not nearer, and the one above otherwise. -/
def candidate (rank : Nat) (power : Int) : Nat :=
  let (below, rest, den) := gridBelow rank power
  if roundsTo rank below power && (2 * rest < den || !roundsTo rank (below + 1) power) then below else below + 1

/-- Goes down the grids from `10 ^ power`, at most `steps` of them, to the first that has a decimal for the
    magnitude. The last grid is taken as it is: there the magnitude is a multiple itself. -/
def searchGrids (rank : Nat) : Nat → Int → Nat × Int
  | 0, power => ((gridBelow rank power).1, power)
  | steps + 1, power =>
    if roundsTo rank (candidate rank power) power then (candidate rank power, power)
    else searchGrids rank steps (power - 1)

/-- The shortest decimal for the magnitude with the given rank, as a count and a power of ten. The search
    starts above the leading digit and ends where every magnitude is a multiple. -/
def shortest (rank : Nat) : Nat × Int :=
  let top := (Nat.toDigits 10 (units rank / unitsPerOne)).length
  searchGrids rank (top + 1074) top

/-!
### Positional notation
-/

/-- The digits of `count * 10 ^ power`: zeros fill up to the point, and the point stands only before a
    fraction. -/
def positional (count : Nat) : Int → List Char
  | .ofNat up => Nat.toDigits 10 count ++ List.replicate up '0'
  | .negSucc down =>
    let digits := Nat.toDigits 10 count
    let padded := List.replicate (down + 2 - digits.length) '0' ++ digits
    padded.take (padded.length - (down + 1)) ++ '.' :: padded.drop (padded.length - (down + 1))

/-- The text of a magnitude. -/
def magnitudeText (rank : Nat) : List Char :=
  if rank = 0 then ['0'] else let (count, power) := shortest rank; positional count power

/-- The text of a number. -/
def chars : Number → List Char
  | .nan => ['N', 'a', 'N']
  | .infinity negative => (if negative then ['-'] else []) ++ ['i', 'n', 'f']
  | .finite negative rank => (if negative then ['-'] else []) ++ magnitudeText rank

/-- The text of a number, as a string. -/
def text (x : Number) : String :=
  String.ofList x.chars

end FilterTree.Number
