/-
Module: FilterTree.Yaml.FlowScalar
Layer: Yaml
Purpose: Scalars that are plain or between quotes. Such a scalar may run over several lines; a gap between two
  of its words is folded: blanks stay, one break of a line becomes a space, and further breaks stay breaks.
Imports: FilterTree.Yaml.Cursor, FilterTree.Text.Digits
Main exports: Yaml.Gap, Yaml.takeGap, Yaml.Gap.folded, Yaml.singleQuoted?, Yaml.doubleQuoted?, Yaml.plain?
-/
import FilterTree.Yaml.Cursor
import FilterTree.Text.Digits

namespace FilterTree.Yaml

/-!
### Gaps
-/

/-- What stands between two words: blanks on one line, or breaks of lines. After breaks, `column` is where the
    next word begins and `tab` the first column of a line at which a tab stands. -/
inductive Gap where
  | blanks (text : List Char)
  | breaks (first more : List Char) (column : Nat) (tab : Option Nat)

/-- The text of a gap inside a scalar. -/
def Gap.folded : Gap → List Char
  | .blanks text => text
  | .breaks first more _ _ =>
    if first = ['\n'] then (if more.isEmpty then [' '] else more) else first ++ more

/-- Whether a gap runs over the end of a line. -/
def Gap.passesLine : Gap → Bool
  | .blanks _ => false
  | .breaks _ _ _ _ => true

/-- A gap with one more blank at its end. -/
def Gap.addBlank (c : Char) : Gap → Gap
  | .blanks text => .blanks (text ++ [c])
  | .breaks first more column tab =>
    .breaks first more (column + 1) (if c = '\t' && tab.all (column < ·) then some column else tab)

/-- A gap with one more break at its end; the blanks before a first break do not count. -/
def Gap.addBreak (text : List Char) : Gap → Gap
  | .blanks _ => .breaks text [] 0 none
  | .breaks first more _ tab => .breaks first (more ++ text) 0 tab

/-- Takes the rest of a gap off the front of a text. -/
def takeGapAfter (gap : Gap) : List Char → Gap × List Char
  | [] => (gap, [])
  | '\r' :: '\n' :: rest => takeGapAfter (gap.addBreak ['\n']) rest
  | c :: rest =>
    if isSpaceOrTab c then takeGapAfter (gap.addBlank c) rest
    else if isBreak c then takeGapAfter (gap.addBreak (takeBreak [c]).1) rest
    else (gap, c :: rest)

/-- Takes a gap off the front of a text. -/
def takeGap (text : List Char) : Gap × List Char :=
  takeGapAfter (.blanks []) text

/-- Whether a gap ends at the start of a line that marks a document. -/
def Gap.reachesMark (rest : List Char) : Gap → Bool
  | .breaks _ _ 0 _ => atDocumentMark rest
  | _ => false

/-!
### Scalars between quotes
-/

/-- Puts a piece of text before what was read behind it. -/
def joinBefore (piece : List Char) (read : Option (List Char × List Char)) :
    Option (List Char × List Char) :=
  read.map fun (text, rest) => (piece ++ text, rest)

/-- A scalar between single quotes, behind the opening one, and what follows it; `fuel` bounds its length. A
    quote is written twice. -/
def singleQuotedWithin : Nat → List Char → Option (List Char × List Char)
  | 0, _ => none
  | fuel + 1, text =>
    match text with
    | [] => none
    | '\'' :: '\'' :: rest => joinBefore ['\''] (singleQuotedWithin fuel rest)
    | '\'' :: rest => some ([], rest)
    | c :: rest =>
      if isGap c then
        let (gap, after) := takeGap (c :: rest)
        if gap.reachesMark after then none
        else joinBefore gap.folded (singleQuotedWithin fuel after)
      else joinBefore [c] (singleQuotedWithin fuel rest)

/-- A scalar between single quotes, behind the opening one, and what follows it. -/
def singleQuoted? (text : List Char) : Option (List Char × List Char) :=
  singleQuotedWithin (text.length + 1) text

/-- The character that a short escape stands for. -/
def escapedChar? (c : Char) : Option Char :=
  match c with
  | '0' => some (Char.ofNat 0)
  | 'a' => some (Char.ofNat 7)
  | 'b' => some (Char.ofNat 8)
  | 't' => some '\t'
  | '\t' => some '\t'
  | 'n' => some '\n'
  | 'v' => some (Char.ofNat 11)
  | 'f' => some (Char.ofNat 12)
  | 'r' => some '\r'
  | 'e' => some (Char.ofNat 27)
  | ' ' => some ' '
  | '"' => some '"'
  | '/' => some '/'
  | '\\' => some '\\'
  | 'N' => some (Char.ofNat 0x85)
  | '_' => some (Char.ofNat 0xA0)
  | 'L' => some (Char.ofNat 0x2028)
  | 'P' => some (Char.ofNat 0x2029)
  | _ => none

/-- The number of hexadecimal digits behind the escape of a code point. -/
def escapedDigits? (c : Char) : Option Nat :=
  match c with
  | 'x' => some 2
  | 'u' => some 4
  | 'U' => some 8
  | _ => none

/-- The character whose code point is given in hexadecimal. Surrogates are no characters. -/
def codeChar? (digits : List Char) : Option Char :=
  (Text.natural? 16 digits).bind fun code =>
    if h : code.isValidChar then some (Char.ofNatAux code h) else none

/-- Takes the rest of an escape, behind the backslash, off the front of a text: the text it stands for. -/
def takeEscape? : List Char → Option (List Char × List Char)
  | [] => none
  | c :: rest =>
    match escapedDigits? c with
    | some count =>
      if rest.length < count then none
      else (codeChar? (rest.take count)).map fun escaped => ([escaped], rest.drop count)
    | none => (escapedChar? c).map fun escaped => ([escaped], rest)

/-- A scalar between double quotes, behind the opening one, and what follows it; `fuel` bounds its length. A
    backslash at the end of a line joins the next line without a space. -/
def doubleQuotedWithin : Nat → List Char → Option (List Char × List Char)
  | 0, _ => none
  | fuel + 1, text =>
    match text with
    | [] => none
    | '"' :: rest => some ([], rest)
    | '\\' :: rest =>
      if rest.head?.any isBreak then
        let (gap, after) := takeGapAfter (.breaks [] [] 0 none) (takeBreak rest).2
        if gap.reachesMark after then none
        else joinBefore gap.folded (doubleQuotedWithin fuel after)
      else
        match takeEscape? rest with
        | some (escaped, rest) => joinBefore escaped (doubleQuotedWithin fuel rest)
        | none => none
    | c :: rest =>
      if isGap c then
        let (gap, after) := takeGap (c :: rest)
        if gap.reachesMark after then none
        else joinBefore gap.folded (doubleQuotedWithin fuel after)
      else joinBefore [c] (doubleQuotedWithin fuel rest)

/-- A scalar between double quotes, behind the opening one, and what follows it. -/
def doubleQuoted? (text : List Char) : Option (List Char × List Char) :=
  doubleQuotedWithin (text.length + 1) text

/-!
### Plain scalars
-/

/-- The brackets and the comma, which end a plain scalar inside brackets. -/
def isFlowMark (c : Char) : Bool :=
  c == ',' || c == '[' || c == ']' || c == '\x7b' || c == '\x7d'

/-- Whether a plain scalar ends at the start of this text. -/
def endsPlain (inFlow : Bool) : List Char → Bool
  | ':' :: rest => endsWord rest
  | c :: _ => inFlow && isFlowMark c
  | [] => true

/-- Whether a colon stands here that a plain scalar inside brackets must not hold. -/
def badFlowColon (inFlow : Bool) : List Char → Bool
  | ':' :: c :: _ => inFlow && (isFlowMark c || c == '?')
  | _ => false

/-- A word of a plain scalar: everything up to a gap or an end, nothing if a forbidden colon stands in it. -/
def takePlainWord? (inFlow : Bool) : List Char → Option (List Char × List Char)
  | [] => some ([], [])
  | c :: rest =>
    if isGap c then some ([], c :: rest)
    else if badFlowColon inFlow (c :: rest) then none
    else if endsPlain inFlow (c :: rest) then some ([], c :: rest)
    else (takePlainWord? inFlow rest).map fun (word, after) => (c :: word, after)

/-- A plain scalar as it was read. -/
structure Plain where
  text : List Char
  rest : List Char
  /-- Whether the gap behind the scalar ends a line. -/
  passesLine : Bool

/-- Whether a gap behind a word keeps the next word from the scalar: a tab in the indentation is an error and
    a line that is not indented enough, a comment or a mark ends it. -/
def Gap.endsPlain (inFlow : Bool) (indent : Nat) (gap : Gap) (rest : List Char) : Bool :=
  gap.reachesMark rest || rest.head? == some '#' ||
    match gap with
    | .breaks _ _ column _ => !inFlow && column < indent
    | .blanks _ => false

/-- Whether a tab stands where the indentation of a scalar should. -/
def Gap.hasBadTab (indent : Nat) : Gap → Bool
  | .breaks _ _ _ (some tab) => tab < indent
  | _ => false

/-- The rest of a plain scalar, with the gap before it; `fuel` bounds its length. -/
def plainAfter (inFlow : Bool) (indent : Nat) (done : List Char) (gap : Gap) :
    Nat → List Char → Option Plain
  | 0, _ => none
  | fuel + 1, text =>
    match takePlainWord? inFlow text with
    | none => none
    | some ([], rest) => some ⟨done, rest, gap.passesLine⟩
    | some (word, rest) =>
      let done := done ++ (gap.folded ++ word)
      if rest.head?.any isGap then
        let (gap, after) := takeGap rest
        if gap.hasBadTab indent then none
        else if gap.endsPlain inFlow indent after then some ⟨done, after, gap.passesLine⟩
        else plainAfter inFlow indent done gap fuel after
      else some ⟨done, rest, false⟩

/-- A plain scalar whose further lines have to be indented by `indent` at least. -/
def plain? (inFlow : Bool) (indent : Nat) (text : List Char) : Option Plain :=
  plainAfter inFlow indent [] (.blanks []) (text.length + 1) text

end FilterTree.Yaml
