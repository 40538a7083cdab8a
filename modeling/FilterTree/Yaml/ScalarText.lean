/-
Module: FilterTree.Yaml.ScalarText
Layer: Yaml
Purpose: Scalars as YAML texts. A text stands bare where it reads back as itself and nothing in it could be
  taken for an indicator; otherwise it stands between quotes, or as a literal block if it has several lines.
Imports: FilterTree.Yaml.Plain, FilterTree.Yaml.Cursor, FilterTree.Text.Basic, FilterTree.Number.Shortest
Main exports: Yaml.ScalarText, Yaml.numberText, Yaml.textText
-/
import FilterTree.Yaml.Plain
import FilterTree.Yaml.Cursor
import FilterTree.Text.Basic
import FilterTree.Number.Shortest

namespace FilterTree.Yaml

/-- A scalar as it is written: the text on the line where it begins, and the lines below. -/
structure ScalarText where
  first : List Char
  below : List (List Char)
deriving DecidableEq, Repr

/-- A scalar on one line. -/
def ScalarText.line (text : List Char) : ScalarText := ⟨text, []⟩

/-- A number, with a fraction or a word in its text so that it reads back as a binary number. -/
def numberText : Number → List Char
  | .nan => ".nan".toList
  | .infinity negative => (if negative then "-.inf" else ".inf").toList
  | .finite negative rank =>
    let text := Number.chars (.finite negative rank)
    if text.contains '.' then text else text ++ ['.', '0']

/-!
### Bare texts
-/

/-- Whether a text reads back as itself when it stands bare. Padded digits do, but look like a number. -/
def readsBack (text : List Char) : Bool :=
  match plainValue? text with
  | some (.text _) => !isPaddedDigits text
  | _ => false

/-- The characters that have to be escaped wherever they stand. -/
def isHidden (c : Char) : Bool :=
  !(isAllowed c && c != '\t' && c != '\r' && c.toNat != 0x85) || isByteOrderMark c

/-- Whether an indicator stands at the start of a text. -/
def startsIndicator : List Char → Bool
  | '-' :: '-' :: '-' :: _ => true
  | '.' :: '.' :: '.' :: _ => true
  | c :: rest => "#,[]\x7b\x7d&*!|>'\"%@`".toList.contains c || ("?:-".toList.contains c && endsWord rest)
  | [] => false

/-- Whether an indicator stands inside a text: a colon before a gap, or a hash behind one. -/
def holdsIndicator : List Char → Bool
  | [] => false
  | c :: rest =>
    (c == ':' && endsWord rest) || (isGap c && rest.head? == some '#') || holdsIndicator rest

/-- Whether a text may stand bare as far as its characters go. -/
def isBareText (text : List Char) : Bool :=
  !text.any isBreak && !text.any isHidden && text.head? != some ' ' && text.getLast? != some ' ' &&
    !startsIndicator text && !holdsIndicator text

/-!
### Quotes and blocks
-/

/-- A text between single quotes, with each quote in it written twice. -/
def singleQuotes (text : List Char) : List Char :=
  '\'' :: (text.flatMap (fun c => if c = '\'' then ['\'', '\''] else [c]) ++ ['\''])

/-- The escape of a character by its code point, with as many digits as its size asks for. -/
def codeEscape (c : Char) : List Char :=
  let digits := (Nat.toDigits 16 c.toNat).map Char.toUpper
  let (letter, width) := if c.toNat < 256 then ('x', 2) else if c.toNat < 65536 then ('u', 4) else ('U', 8)
  '\\' :: letter :: (List.replicate (width - digits.length) '0' ++ digits)

/-- A character between double quotes. -/
def escaped (c : Char) : List Char :=
  match c.toNat with
  | 0 => ['\\', '0']
  | 7 => ['\\', 'a']
  | 8 => ['\\', 'b']
  | 9 => ['\\', 't']
  | 10 => ['\\', 'n']
  | 11 => ['\\', 'v']
  | 12 => ['\\', 'f']
  | 13 => ['\\', 'r']
  | 27 => ['\\', 'e']
  | 34 => ['\\', '"']
  | 92 => ['\\', '\\']
  | 0x85 => ['\\', 'N']
  | 0x2028 => ['\\', 'L']
  | 0x2029 => ['\\', 'P']
  | _ => if isHidden c then codeEscape c else [c]

/-- A text between double quotes. -/
def doubleQuotes (text : List Char) : List Char :=
  '"' :: (text.flatMap escaped ++ ['"'])

/-- Whether a text may stand as a literal block: no line may end with a space. -/
def isBlockText (text : List Char) : Bool :=
  !text.any (fun c => isHidden c || (isBreak c && c != '\n')) &&
    (Text.splitOn '\n' text).all fun line => line.getLast? != some ' '

/-- A text as a literal block. The header fixes the indentation if the text begins with a space or a break,
    and tells whether the text ends without a break, with one, or with several. -/
def literalBlock (text : List Char) : ScalarText :=
  let lines := Text.splitOn '\n' text
  let indent := if text.head?.any fun c => c == ' ' || c == '\n' then ['2'] else []
  match text.reverse with
  | '\n' :: '\n' :: _ => ⟨'|' :: (indent ++ ['+']), lines.dropLast⟩
  | ['\n'] => ⟨'|' :: (indent ++ ['+']), lines.dropLast⟩
  | '\n' :: _ => ⟨'|' :: indent, lines.dropLast⟩
  | _ => ⟨'|' :: (indent ++ ['-']), lines⟩

/-- A text as a scalar. -/
def textText (text : List Char) : ScalarText :=
  if text.contains '\n' then
    if isBlockText text then literalBlock text else .line (doubleQuotes text)
  else if readsBack text && isBareText text then .line text
  else if text.any fun c => isHidden c || isBreak c then .line (doubleQuotes text)
  else .line (singleQuotes text)

end FilterTree.Yaml
