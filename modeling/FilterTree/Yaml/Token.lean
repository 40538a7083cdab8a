/-
Module: FilterTree.Yaml.Token
Layer: Yaml
Purpose: The tokens of YAML texts. Indentation becomes tokens that open and close collections. A key that
  only its colon gives away is found afterwards: the place of every token that might begin such a key is
  remembered, and its key token is put in when the colon comes on the same line.
Imports: FilterTree.Yaml.FlowScalar, FilterTree.Yaml.BlockScalar, FilterTree.Yaml.Tag
Main exports: Yaml.Token, Yaml.Scanner, Yaml.Scanner.next?, Yaml.tokens?
-/
import FilterTree.Yaml.FlowScalar
import FilterTree.Yaml.BlockScalar
import FilterTree.Yaml.Tag

namespace FilterTree.Yaml

/-- The tokens of a YAML text. -/
inductive Token where
  | version (major minor : Nat)
  | tagHandle (handle : List Char) (stem : Tag)
  | documentStart
  | documentEnd
  | blockSequenceStart
  | blockMappingStart
  | blockEnd
  | blockEntry
  | flowSequenceStart
  | flowSequenceEnd
  | flowMappingStart
  | flowMappingEnd
  | flowEntry
  | key
  | value
  | anchor (name : List Char)
  | alias (name : List Char)
  | tag (handle : List Char) (suffix : Tag)
  | scalar (plain : Bool) (text : List Char)
deriving DecidableEq

/-- A place at which a key may have begun that has no indicator of its own. -/
structure KeyPlace where
  /-- Whether a key has to be here, because the line begins a new entry of a mapping. -/
  required : Bool
  /-- The number of tokens before the place. -/
  token : Nat
  bytes : Nat
  line : Nat
  column : Nat

/-- A text while it is cut into tokens. -/
structure Scanner where
  cursor : Cursor
  /-- The number of brackets that are open. -/
  flow : Nat
  /-- The indentation of the innermost block collection, less than zero outside all. -/
  indent : Int
  /-- The indentations of the block collections around it. -/
  outer : List Int
  /-- Whether a key without an indicator may begin here. -/
  keyAllowed : Bool
  /-- The place of a possible key, for the block and for each open bracket, innermost first. -/
  places : List (Option KeyPlace)
  tokens : Array Token

namespace Scanner

/-- The scanner at the start of a text. -/
def start (text : List Char) : Scanner :=
  ⟨.start text, 0, -1, [], true, [none], #[]⟩

/-- The text that is left. -/
def rest (s : Scanner) : List Char := s.cursor.rest

/-- The column of the place as an indentation. -/
def column (s : Scanner) : Int := s.cursor.column

/-- Adds a token at the end. -/
def push (s : Scanner) (token : Token) : Scanner :=
  { s with tokens := s.tokens.push token }

/-- Goes on to where only `rest` is left. -/
def goTo (s : Scanner) (rest : List Char) : Scanner :=
  { s with cursor := s.cursor.skipTo rest }

/-- Goes on by a number of characters. -/
def skip (s : Scanner) (count : Nat) : Scanner :=
  { s with cursor := s.cursor.skip count }

/-- Says whether a key without an indicator may begin from here on. -/
def allowKey (s : Scanner) (allowed : Bool) : Scanner :=
  { s with keyAllowed := allowed }

/-!
### Possible keys
-/

/-- Gives up the innermost possible key; one that has to be there must not be given up. -/
def dropKey? (s : Scanner) : Option Scanner :=
  match s.places with
  | some place :: outer => if place.required then none else some { s with places := none :: outer }
  | _ => some s

/-- Remembers this place as a possible key, if one may begin here. -/
def saveKey? (s : Scanner) : Option Scanner :=
  if s.keyAllowed then do
    let s ← s.dropKey?
    let place : KeyPlace :=
      ⟨s.flow == 0 && s.indent == s.column, s.tokens.size, s.cursor.bytes, s.cursor.line, s.cursor.column⟩
    some { s with places := some place :: s.places.drop 1 }
  else some s

/-- Whether a possible key has been left behind: its line is over, or it has more than 1024 bytes. -/
def isStale (s : Scanner) (place : KeyPlace) : Bool :=
  place.line < s.cursor.line || place.bytes + 1024 < s.cursor.bytes

/-- Gives up every possible key that has been left behind. -/
def dropStale? (s : Scanner) : Option Scanner :=
  let stale (place : Option KeyPlace) : Bool := place.any s.isStale
  if s.places.any fun place => stale place && place.any KeyPlace.required then none
  else some { s with places := s.places.map fun place => if stale place then none else place }

/-!
### Indentation
-/

/-- Opens a block collection at a column if it is indented further than the one around it; its token goes
    before the token numbered `at`. -/
def indentTo (s : Scanner) (column : Int) (place : Nat) (token : Token) : Scanner :=
  if s.flow == 0 && s.indent < column then
    { s with outer := s.indent :: s.outer, indent := column,
             tokens := s.tokens.insertIdxIfInBounds place token }
  else s

/-- Closes the block collections that are indented further than a column. -/
def closeTo (column : Int) (indent : Int) (tokens : Array Token) : List Int → Int × Array Token × List Int
  | [] => (indent, tokens, [])
  | around :: outer =>
    if column < indent then closeTo column around (tokens.push .blockEnd) outer
    else (indent, tokens, around :: outer)

/-- Closes the block collections that are indented further than a column; brackets keep them open. -/
def unindentTo (s : Scanner) (column : Int) : Scanner :=
  if s.flow == 0 then
    let (indent, tokens, outer) := closeTo column s.indent s.tokens s.outer
    { s with indent := indent, tokens := tokens, outer := outer }
  else s

/-!
### Between tokens
-/

/-- Takes blanks, comments, breaks and marks of byte order at the start of a line off the front; `fuel` bounds
    their number. Outside brackets a new line may begin with a key, and where a key may begin a tab is no
    blank. -/
def skipSpace (s : Scanner) : Nat → Scanner
  | 0 => s
  | fuel + 1 =>
    match s.rest with
    | [] => s
    | c :: rest =>
      if isByteOrderMark c && s.cursor.column == 0 then skipSpace (s.skip 1) fuel
      else if c = ' ' || (c = '\t' && (s.flow != 0 || !s.keyAllowed)) then skipSpace (s.skip 1) fuel
      else if c = '#' then skipSpace (s.goTo (rest.dropWhile fun c => !isBreak c)) fuel
      else if isBreak c then
        let s := s.goTo (takeBreak s.rest).2
        skipSpace (if s.flow == 0 then s.allowKey true else s) fuel
      else s

/-- Goes to the next token. -/
def toToken (s : Scanner) : Scanner :=
  s.skipSpace (s.rest.length + 1)

/-!
### Directives
-/

/-- The end of a directive: blanks and a comment up to the end of the line. -/
def directiveEnd? (text : List Char) : Option (List Char) :=
  let rest := text.dropWhile isSpaceOrTab
  let rest := if rest.head? == some '#' then rest.dropWhile fun c => !isBreak c else rest
  if endsLine rest then some (takeBreak rest).2 else none

/-- A number of a version, of at most nine digits. -/
def versionNumber? (text : List Char) : Option (Nat × List Char) :=
  let digits := text.takeWhile Char.isDigit
  if digits.isEmpty || 9 < digits.length then none
  else some (Text.digitsValue 0 digits, text.dropWhile Char.isDigit)

/-- The directive that names the version. -/
def versionDirective? (text : List Char) : Option (Token × List Char) := do
  let (major, rest) ← versionNumber? (text.dropWhile isSpaceOrTab)
  match rest with
  | '.' :: rest =>
    let (minor, rest) ← versionNumber? rest
    some (.version major minor, rest)
  | _ => none

/-- The directive that gives a meaning to a tag handle. -/
def handleDirective? (text : List Char) : Option (Token × List Char) := do
  let (handle, rest) ← takeHandle? (text.dropWhile isSpaceOrTab)
  if handle != ['!'] && handle.getLast? != some '!' then none
  if !rest.head?.any isSpaceOrTab then none
  let (stem, rest) ← takeSomeTag? true (rest.dropWhile isSpaceOrTab)
  if !endsWord rest then none
  some (.tagHandle handle stem, rest)

/-- A directive, behind its percent sign. -/
def directive? (text : List Char) : Option (Token × List Char) := do
  let name := text.takeWhile isHandleChar
  let rest := text.dropWhile isHandleChar
  if !endsWord rest then none
  let (token, rest) ←
    if name = "YAML".toList then versionDirective? rest
    else if name = "TAG".toList then handleDirective? rest
    else none
  some (token, ← directiveEnd? rest)

/-!
### Anchors and tags
-/

/-- The name of an anchor or alias, behind its indicator. -/
def anchorName? (text : List Char) : Option (List Char × List Char) :=
  let name := text.takeWhile isHandleChar
  let rest := text.dropWhile isHandleChar
  if name.isEmpty then none
  else if endsWord rest || rest.head?.any "?:,]\x7d%@`".toList.contains then some (name, rest)
  else none

/-- A tag in its long form, in a form with a named handle, or in the short form. A lone exclamation mark is
    a tag of its own. -/
def tag? (text : List Char) : Option (Token × List Char) :=
  match text with
  | '!' :: '<' :: rest => do
    let (suffix, rest) ← takeSomeTag? true rest
    match rest with
    | '>' :: rest => some (.tag [] suffix, rest)
    | _ => none
  | _ => do
    let (handle, rest) ← takeHandle? text
    if 1 < handle.length && handle.getLast? == some '!' then
      let (suffix, rest) ← takeSomeTag? false rest
      some (.tag handle suffix, rest)
    else
      let (suffix, rest) ← takeTag? false rest
      match Tag.ofText (String.ofList (handle.drop 1)) ++ suffix with
      | [] => some (.tag [] (Tag.ofText "!"), rest)
      | suffix => some (.tag ['!'] suffix, rest)

/-- Whether a tag may end here. -/
def endsTag (flow : Nat) (text : List Char) : Bool :=
  endsWord text || (flow != 0 && text.head? == some ',')

/-!
### One token
-/

/-- The end of the text, which closes every block collection. -/
def finish? (s : Scanner) : Option Scanner :=
  (s.unindentTo (-1)).dropKey?

/-- A directive or a mark of a document, before which every block collection ends. -/
def topToken? (s : Scanner) (token : Token) (rest : List Char) : Option Scanner := do
  let s ← (s.unindentTo (-1)).dropKey?
  some (((s.allowKey false).goTo rest).push token)

/-- An opening bracket. -/
def open? (s : Scanner) (token : Token) : Option Scanner := do
  let s ← s.saveKey?
  let s := { s with flow := s.flow + 1, places := none :: s.places }
  some (((s.allowKey true).skip 1).push token)

/-- A closing bracket. -/
def close? (s : Scanner) (token : Token) : Option Scanner := do
  let s ← s.dropKey?
  let s := if s.flow == 0 then s else { s with flow := s.flow - 1, places := s.places.drop 1 }
  some (((s.allowKey false).skip 1).push token)

/-- A comma between brackets. -/
def comma? (s : Scanner) : Option Scanner := do
  let s ← s.dropKey?
  some (((s.allowKey true).skip 1).push .flowEntry)

/-- The hyphen of an entry of a block sequence. -/
def entry? (s : Scanner) : Option Scanner := do
  if s.flow == 0 && !s.keyAllowed then none
  let s ← (s.indentTo s.column s.tokens.size .blockSequenceStart).dropKey?
  some (((s.allowKey true).skip 1).push .blockEntry)

/-- The question mark of a key. -/
def key? (s : Scanner) : Option Scanner := do
  if s.flow == 0 && !s.keyAllowed then none
  let s ← (s.indentTo s.column s.tokens.size .blockMappingStart).dropKey?
  some (((s.allowKey (s.flow == 0)).skip 1).push .key)

/-- The colon of a value. If a key was possible, it is one now. -/
def value? (s : Scanner) : Option Scanner :=
  match s.places with
  | some place :: outer =>
    let s := { s with tokens := s.tokens.insertIdxIfInBounds place.token .key, places := none :: outer }
    let s := s.indentTo place.column place.token .blockMappingStart
    some (((s.allowKey false).skip 1).push .value)
  | _ => do
    if s.flow == 0 && !s.keyAllowed then none
    let s := s.indentTo s.column s.tokens.size .blockMappingStart
    some (((s.allowKey (s.flow == 0)).skip 1).push .value)

/-- An anchor, alias, tag or scalar between quotes, which may begin a key. -/
def inline? (s : Scanner) (read : Option (Token × List Char)) : Option Scanner := do
  let s ← s.saveKey?
  let (token, rest) ← read
  some (((s.allowKey false).goTo rest).push token)

/-- A block scalar. -/
def block? (s : Scanner) (folded : Bool) : Option Scanner := do
  let s ← s.dropKey?
  let (text, rest) ← blockScalar? folded s.indent (s.rest.drop 1)
  some (((s.allowKey true).goTo rest).push (.scalar false text))

/-- A plain scalar. If it ends at the end of a line, a key may begin behind it. -/
def plainScalar? (s : Scanner) : Option Scanner := do
  let s ← s.saveKey?
  let plain ← plain? (s.flow != 0) (s.indent + 1).toNat s.rest
  some (((s.allowKey plain.passesLine).goTo plain.rest).push (.scalar true plain.text))

/-- Whether a plain scalar may begin here. -/
def startsPlain (flow : Nat) : List Char → Bool
  | [] => false
  | c :: rest =>
    if c = '-' then !rest.head?.any isSpaceOrTab
    else if c = '?' || c = ':' then flow == 0 && !endsWord rest
    else !isGap c && !",[]\x7b\x7d#&*!|>'\"%@`".toList.contains c

/-- Reads one token. -/
def token? (s : Scanner) : Option Scanner :=
  let top := s.cursor.column == 0
  match s.rest with
  | [] => s.finish?
  | c :: rest =>
    if top && c = '%' then do
      let (token, rest) ← directive? rest
      s.topToken? token rest
    else if top && atDocumentMark s.rest then
      s.topToken? (if c = '-' then .documentStart else .documentEnd) (s.rest.drop 3)
    else if c = '[' then s.open? .flowSequenceStart
    else if c = '\x7b' then s.open? .flowMappingStart
    else if c = ']' then s.close? .flowSequenceEnd
    else if c = '\x7d' then s.close? .flowMappingEnd
    else if c = ',' then s.comma?
    else if c = '-' && endsWord rest then s.entry?
    else if c = '?' && (s.flow != 0 || endsWord rest) then s.key?
    else if c = ':' && (s.flow != 0 || endsWord rest) then s.value?
    else if c = '*' then s.inline? ((anchorName? rest).map fun (name, rest) => (.alias name, rest))
    else if c = '&' then s.inline? ((anchorName? rest).map fun (name, rest) => (.anchor name, rest))
    else if c = '!' then
      s.inline? ((tag? s.rest).filter fun (_, rest) => endsTag s.flow rest)
    else if c = '|' && s.flow == 0 then s.block? false
    else if c = '>' && s.flow == 0 then s.block? true
    else if c = '\'' then
      s.inline? ((singleQuoted? rest).map fun (text, rest) => (.scalar false text, rest))
    else if c = '"' then
      s.inline? ((doubleQuoted? rest).map fun (text, rest) => (.scalar false text, rest))
    else if startsPlain s.flow s.rest then s.plainScalar?
    else none

/-- Reads the next token, or closes what is open at the end of the text. -/
def next? (s : Scanner) : Option Scanner := do
  let s ← s.toToken.dropStale?
  (s.unindentTo s.column).token?

/-- Reads all tokens; `fuel` bounds their number. -/
def all? (s : Scanner) : Nat → Option (Array Token)
  | 0 => none
  | fuel + 1 => do
    let next ← s.next?
    if s.toToken.rest.isEmpty then some next.tokens else all? next fuel

end Scanner

/-- The tokens of a text. Characters that no YAML text may hold are errors wherever they stand. -/
def tokens? (text : List Char) : Option (List Token) :=
  if text.all isAllowed then (Scanner.all? (.start text) (text.length + 2)).map Array.toList else none

end FilterTree.Yaml
