/-
Module: FilterTree.Yaml.BlockScalar
Layer: Yaml
Purpose: Scalars in blocks of indented lines. A literal block keeps its lines; a folded one joins neighbouring
  lines that do not begin with a blank. The header says what becomes of the breaks at the end and may fix the
  indentation, which otherwise is that of the first line with text.
Imports: FilterTree.Yaml.Cursor
Main exports: Yaml.blockScalar?
-/
import FilterTree.Yaml.Cursor

namespace FilterTree.Yaml

/-- What becomes of the breaks at the end of a block: one stays, none stays, or all stay. -/
inductive Chomp where
  | clip
  | strip
  | keep
deriving DecidableEq

/-- The header of a block scalar; an indentation of zero is still to be found out. -/
structure BlockHeader where
  chomp : Chomp
  indent : Nat

/-- The chomping that a header character asks for. -/
def chomp? (c : Char) : Option Chomp :=
  if c = '+' then some .keep else if c = '-' then some .strip else none

/-- The indentation that a header character fixes. -/
def blockIndent? (c : Char) : Option Nat :=
  if c.isDigit && c != '0' then some (c.toNat - '0'.toNat) else none

/-- Takes the chomping and the indentation, in either order, off the front of a header. A zero is left, where
    it is an error. -/
def takeHeader (text : List Char) : BlockHeader × List Char :=
  match text with
  | [] => (⟨.clip, 0⟩, [])
  | c :: rest =>
    match chomp? c, blockIndent? c with
    | some chomp, _ =>
      match rest.head?.bind blockIndent? with
      | some indent => (⟨chomp, indent⟩, rest.drop 1)
      | none => (⟨chomp, 0⟩, rest)
    | none, some indent =>
      match rest.head?.bind chomp? with
      | some chomp => (⟨chomp, indent⟩, rest.drop 1)
      | none => (⟨.clip, indent⟩, rest)
    | none, none => (⟨.clip, 0⟩, text)

/-- The end of the header line: blanks and a comment. Anything else there is an error. -/
def takeHeaderEnd? (text : List Char) : Option (List Char) :=
  let rest := text.dropWhile isSpaceOrTab
  let rest := if rest.head? == some '#' then rest.dropWhile fun c => !isBreak c else rest
  if endsLine rest then some (takeBreak rest).2 else none

/-- What stands before a line with text: the breaks of empty lines and the column that was reached. -/
structure Leading where
  breaks : List Char
  column : Nat
  /-- The furthest column that any of the lines reached. -/
  furthest : Nat
  rest : List Char

/-- Takes empty lines and the indentation of the next line; `fuel` bounds their length. With the indentation
    still to be found out, spaces are taken as far as they go. A tab among them is an error. -/
def takeLeading (indent : Nat) (done : Leading) : Nat → Option Leading
  | 0 => some done
  | fuel + 1 =>
    let inside := indent = 0 || done.column < indent
    match done.rest with
    | ' ' :: rest =>
      if inside then
        takeLeading indent { done with column := done.column + 1,
                                       furthest := max done.furthest (done.column + 1), rest := rest } fuel
      else some done
    | c :: _ =>
      if c = '\t' && inside then none
      else if isBreak c then
        let (text, rest) := takeBreak done.rest
        takeLeading indent { done with breaks := done.breaks ++ text, column := 0, rest := rest } fuel
      else some done
    | [] => some done

/-- Empty lines and indentation at the start of a line. -/
def leading? (indent : Nat) (text : List Char) : Option Leading :=
  takeLeading indent ⟨[], 0, 0, text⟩ (text.length + 1)

/-- What has been read of a block. -/
structure BlockText where
  text : List Char
  /-- The break of the last line. -/
  lineBreak : List Char
  /-- The breaks of the empty lines behind it. -/
  emptyLines : List Char
  /-- Whether the last line began with a blank. -/
  blank : Bool
  rest : List Char

/-- The breaks between two lines with text. A folded block turns a single break into a space and takes one
    break away from several, unless one of the lines begins with a blank. -/
def lineJoint (folded : Bool) (block : BlockText) (blank : Bool) : List Char :=
  if folded && block.lineBreak = ['\n'] && !block.blank && !blank then
    (if block.emptyLines.isEmpty then [' '] else block.emptyLines)
  else block.lineBreak ++ block.emptyLines

/-- Reads the lines of a block at a fixed indentation; `fuel` bounds their number. -/
def takeLines (folded : Bool) (indent column : Nat) (block : BlockText) : Nat → Option BlockText
  | 0 => some block
  | fuel + 1 =>
    match block.rest with
    | [] => some block
    | c :: _ =>
      if column != indent then some block
      else
        let blank := isSpaceOrTab c
        let line := block.rest.takeWhile fun c => !isBreak c
        let (lineBreak, rest) := takeBreak (block.rest.dropWhile fun c => !isBreak c)
        match leading? indent rest with
        | none => none
        | some leading =>
          takeLines folded indent leading.column
            ⟨block.text ++ (lineJoint folded block blank ++ line), lineBreak, leading.breaks, blank,
              leading.rest⟩ fuel

/-- A block scalar behind its indicator, and what follows it. `parent` is the indentation of the collection
    around it, less than zero at the top. -/
def blockScalar? (folded : Bool) (parent : Int) (text : List Char) : Option (List Char × List Char) := do
  let (header, rest) := takeHeader text
  let rest ← takeHeaderEnd? rest
  let given := if header.indent = 0 then 0 else (max parent 0).toNat + header.indent
  let leading ← leading? given rest
  let indent := if given = 0 then max leading.furthest (max (parent + 1).toNat 1) else given
  let block ← takeLines folded indent leading.column ⟨[], [], leading.breaks, false, leading.rest⟩
    (rest.length + 1)
  let ending := match header.chomp with
    | .clip => block.lineBreak
    | .strip => []
    | .keep => block.lineBreak ++ block.emptyLines
  some (block.text ++ ending, block.rest)

end FilterTree.Yaml
