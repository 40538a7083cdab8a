/-
Module: FilterTree.Yaml.Cursor
Layer: Yaml
Purpose: Characters of YAML texts and places in them. A cursor is what is left of a text together with the
  number of bytes, lines and columns before it.
Imports: none
Main exports: Yaml.isBreak, Yaml.isSpaceOrTab, Yaml.endsWord, Yaml.isAllowed, Yaml.Cursor, Yaml.Cursor.skip
-/

namespace FilterTree.Yaml

/-- The characters that end a line. -/
def isBreak (c : Char) : Bool :=
  c == '\n' || c == '\r' || c.toNat == 0x85 || c.toNat == 0x2028 || c.toNat == 0x2029

/-- The characters that separate words on a line. -/
def isSpaceOrTab (c : Char) : Bool :=
  c == ' ' || c == '\t'

/-- The characters that separate words, breaks of lines among them. -/
def isGap (c : Char) : Bool :=
  isSpaceOrTab c || isBreak c

/-- Whether a text begins with something that separates words, or has come to its end. -/
def endsWord : List Char → Bool
  | [] => true
  | c :: _ => isGap c

/-- Whether a text begins at the end of a line. -/
def endsLine : List Char → Bool
  | [] => true
  | c :: _ => isBreak c

/-- The characters of anchors and tag handles. -/
def isHandleChar (c : Char) : Bool :=
  c.isAlphanum || c == '_' || c == '-'

/-- The characters that a YAML text may hold. -/
def isAllowed (c : Char) : Bool :=
  let code := c.toNat
  code == 0x09 || code == 0x0A || code == 0x0D || (0x20 ≤ code && code ≤ 0x7E) || code == 0x85 ||
    (0xA0 ≤ code && code ≤ 0xD7FF) || (0xE000 ≤ code && code ≤ 0xFFFD) || 0x10000 ≤ code

/-- Whether a text begins with a line that marks the start or the end of a document. -/
def atDocumentMark : List Char → Bool
  | '-' :: '-' :: '-' :: rest => endsWord rest
  | '.' :: '.' :: '.' :: rest => endsWord rest
  | _ => false

/-- Takes one break of a line off the front, with the text that it stands for inside a scalar: a line feed,
    except that the separators of lines and paragraphs stay as they are. -/
def takeBreak : List Char → List Char × List Char
  | '\r' :: '\n' :: rest => (['\n'], rest)
  | c :: rest =>
    if c.toNat = 0x2028 || c.toNat = 0x2029 then ([c], rest)
    else if isBreak c then (['\n'], rest)
    else ([], c :: rest)
  | [] => ([], [])

/-- The mark of byte order, which may stand before every line. -/
def isByteOrderMark (c : Char) : Bool :=
  c.toNat == 0xFEFF

/-- A place in a text: what is left, and how many bytes in UTF-8, lines and columns lie before it. -/
structure Cursor where
  rest : List Char
  bytes : Nat
  line : Nat
  column : Nat

namespace Cursor

/-- The start of a text. -/
def start (text : List Char) : Cursor :=
  ⟨text, 0, 0, 0⟩

/-- The place a number of characters further on. A carriage return right before a line feed does not end a
    line of its own. -/
def skip (cursor : Cursor) : Nat → Cursor
  | 0 => cursor
  | count + 1 =>
    match cursor.rest with
    | [] => cursor
    | c :: rest =>
      let next : Cursor :=
        if c == '\r' && rest.head? == some '\n' then
          ⟨rest, cursor.bytes + c.utf8Size, cursor.line, cursor.column⟩
        else if isBreak c then ⟨rest, cursor.bytes + c.utf8Size, cursor.line + 1, 0⟩
        else ⟨rest, cursor.bytes + c.utf8Size, cursor.line, cursor.column + 1⟩
      next.skip count

/-- The place where only `rest` is left. -/
def skipTo (cursor : Cursor) (rest : List Char) : Cursor :=
  cursor.skip (cursor.rest.length - rest.length)

end Cursor

end FilterTree.Yaml
