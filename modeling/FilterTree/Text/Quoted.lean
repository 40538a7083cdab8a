/-
Module: FilterTree.Text.Quoted
Layer: Text
Purpose: String literals of predicates. A literal stands between two equal quotes, and a backslash makes the
  character after it stand for itself. Writing uses single quotes and escapes only what needs it.
Imports: none
Main exports: Text.escape, Text.quote, Text.unquote?
-/

namespace FilterTree.Text

/-- The inside of a literal between single quotes: a backslash before each backslash and single quote. -/
def escape : List Char → List Char
  | [] => []
  | c :: rest => if c = '\\' || c = '\'' then '\\' :: c :: escape rest else c :: escape rest

/-- A text as a literal between single quotes. -/
def quote (text : List Char) : List Char :=
  '\'' :: escape text ++ ['\'']

/-- Reads the rest of a literal up to the closing quote: its text, and what follows the quote. A literal that
    is never closed has no reading. -/
def unquote? (mark : Char) : List Char → Option (List Char × List Char)
  | [] => none
  | c :: rest =>
    if c = mark then some ([], rest)
    else if c = '\\' then
      match rest with
      | [] => none
      | escaped :: rest => (unquote? mark rest).map fun (text, after) => (escaped :: text, after)
    else (unquote? mark rest).map fun (text, after) => (c :: text, after)

end FilterTree.Text
