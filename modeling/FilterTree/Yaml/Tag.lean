/-
Module: FilterTree.Yaml.Tag
Layer: Yaml
Purpose: Tags of YAML nodes. A tag is a string of bytes; it is written with percent signs for the bytes that
  may not stand in it, and ends before a byte of zero. A tag that begins with an exclamation mark and is a
  text stays on its value under its name. The standard tags name kinds of scalars.
Imports: FilterTree.Yaml.Cursor, FilterTree.Text.Digits, FilterTree.Text.Form
Main exports: Yaml.Tag, Yaml.takeTag?, Yaml.takeHandle?, Yaml.Tag.isLocal, Yaml.Tag.name?, Yaml.Tag.kind?,
  Yaml.tagText
-/
import FilterTree.Yaml.Cursor
import FilterTree.Text.Digits
import FilterTree.Text.Form

namespace FilterTree.Yaml

/-- A tag, byte by byte. -/
abbrev Tag := List UInt8

/-- A tag from its text. -/
def Tag.ofText (text : String) : Tag :=
  text.toList.flatMap String.utf8EncodeChar

/-!
### Reading
-/

/-- The characters of a tag behind its handle. The last three are not allowed in short forms. -/
def isTagChar (long : Bool) (c : Char) : Bool :=
  isHandleChar c || ";/?:@&=+$.%!~*'()".toList.contains c || (long && (c == ',' || c == '[' || c == ']'))

/-- The number of bytes that follow the first byte of a character. -/
def trailing? (first : Nat) : Option Nat :=
  if first < 0x80 then some 0
  else if first < 0xC0 then none
  else if first < 0xE0 then some 1
  else if first < 0xF0 then some 2
  else if first < 0xF8 then some 3
  else none

/-- The bytes of a tag: two hexadecimal digits behind each percent sign, and the other characters. `pending`
    is the number of bytes that the last character still needs, which must be given by percent signs too. -/
def tagBytes? (pending : Nat) : List Char → Option Tag
  | [] => if pending = 0 then some [] else none
  | '%' :: a :: b :: rest => do
    let byte := 16 * (← Text.digit? 16 a) + (← Text.digit? 16 b)
    let pending ←
      if pending = 0 then trailing? byte
      else if 0x80 ≤ byte ∧ byte < 0xC0 then some (pending - 1)
      else none
    let bytes ← tagBytes? pending rest
    some (UInt8.ofNat byte :: bytes)
  | c :: rest =>
    if pending ≠ 0 || c = '%' then none
    else (tagBytes? 0 rest).map fun bytes => String.utf8EncodeChar c ++ bytes

/-- Takes the characters of a tag, if there are any, off the front of a text. -/
def takeTag? (long : Bool) (text : List Char) : Option (Tag × List Char) := do
  let bytes ← tagBytes? 0 (text.takeWhile (isTagChar long))
  some (bytes.takeWhile (· != 0), text.dropWhile (isTagChar long))

/-- Takes the characters of a tag, at least one, off the front of a text. -/
def takeSomeTag? (long : Bool) (text : List Char) : Option (Tag × List Char) :=
  if text.head?.any (isTagChar long) then takeTag? long text else none

/-- Takes a tag handle off the front: an exclamation mark, and perhaps a name and another one. -/
def takeHandle? : List Char → Option (List Char × List Char)
  | '!' :: rest =>
    let name := rest.takeWhile isHandleChar
    match rest.dropWhile isHandleChar with
    | '!' :: after => some ('!' :: (name ++ ['!']), after)
    | after => some ('!' :: name, after)
  | _ => none

namespace Tag

/-!
### What tags say
-/

/-- Whether a tag begins with an exclamation mark. -/
def isLocal (tag : Tag) : Bool :=
  tag.head? == some 33

/-- A name without an exclamation mark in front, unless the name is that mark alone. -/
def plainName : List Char → List Char
  | '!' :: c :: name => c :: name
  | name => name

/-- The name of a tag that stays on its value: what follows the exclamation mark, as far as that is a text. A
    lone mark has itself for a name, and a second mark in front does not count. -/
def name? (tag : Tag) : Option String :=
  match tag with
  | [33] => some "!"
  | 33 :: rest => (String.fromUTF8? ⟨rest.toArray⟩).map fun name => String.ofList (plainName name.toList)
  | _ => none

/-- What the standard tags begin with. -/
def standard : Tag :=
  ofText "tag:yaml.org,2002:"

/-- The kind of scalars that a standard tag names. -/
def kind? (tag : Tag) : Option Tag :=
  if tag.take standard.length = standard then some (tag.drop standard.length) else none

end Tag

/-- The name under which the tag of a node stays on its value. -/
def localName? (tag : Option Tag) : Option String :=
  tag.bind Tag.name?

/-!
### Writing
-/

/-- Whether a character stands for itself in a written tag. -/
def isTagSafe (c : Char) : Bool :=
  isHandleChar c || ";/?:@&=+$,.~*'()[]".toList.contains c

/-- The tag of a name as it is written. A lone mark stands between angle brackets, and the bytes of
    characters that may not stand in a tag stand behind percent signs. -/
def tagText (name : String) : List Char :=
  if name = "!" then "!<%21>".toList
  else '!' :: name.toList.flatMap fun c =>
    if isTagSafe c then [c] else (String.utf8EncodeChar c).flatMap Text.percent

end FilterTree.Yaml
