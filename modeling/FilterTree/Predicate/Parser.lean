/-
Module: FilterTree.Predicate.Parser
Layer: Predicate
Purpose: Reading predicates. The grammar, with blanks allowed before every token outside a path:
    or      := and ("||" and)*
    and     := compare ("&&" compare)*
    compare := unary (relation unary)?
    unary   := "!" unary | primary
    primary := "(" or ")" | literal | path | function "(" (or ("," or)*)? ")"
    path    := "record" (("?." | ".") name)*
  Every parser takes the text that is left and gives back what it read and what is left after it. At most
  256 unaries may be open at once. Nesting is counted down by the levels that are left; the chains of
  operators are bounded by the length of the whole text, which no chain can exceed.
Imports: FilterTree.Predicate.Fault, FilterTree.Text.Blank, FilterTree.Text.Word, FilterTree.Text.Quoted,
  FilterTree.Number.Decimal
Main exports: Predicate.maxLevels, Predicate.orExpr, Predicate.unary, Predicate.parse
-/
import FilterTree.Predicate.Fault
import FilterTree.Text.Blank
import FilterTree.Text.Word
import FilterTree.Text.Quoted
import FilterTree.Number.Decimal

namespace FilterTree.Predicate

open Text (skipBlanks stripPrefix?)

/-- Why reading stopped: a problem at the place where `rest` is left, or a fault without a place. -/
inductive Stop where
  | at (problem : Problem) (rest : List Char)
  | fault (reason : Fault)
deriving DecidableEq, Repr

/-- A parser of expressions: it takes the text that is left and gives back an expression and what is left
    after it. -/
abbrev Parser := List Char → Except Stop (Expr × List Char)

/-- The number of unaries that may be open at once. -/
def maxLevels : Nat := 256

/-!
### Literals, paths and relations
-/

/-- The relation that a text begins with. The longer symbols go first; equality and inequality have a longer
    form each. -/
def relation? (text : List Char) : Option (Relation × List Char) :=
  match text with
  | '=' :: '=' :: '=' :: rest => some (.eq, rest)
  | '=' :: '=' :: rest => some (.eq, rest)
  | '!' :: '=' :: '=' :: rest => some (.ne, rest)
  | '!' :: '=' :: rest => some (.ne, rest)
  | '>' :: '=' :: rest => some (.ge, rest)
  | '<' :: '=' :: rest => some (.le, rest)
  | '>' :: rest => some (.gt, rest)
  | '<' :: rest => some (.lt, rest)
  | _ => none

/-- A literal behind its opening quote. One that is not closed stops at the end of the text. -/
def literal (mark : Char) : Parser := fun text =>
  match Text.unquote? mark text with
  | some (value, rest) => .ok (.literal (.text (String.ofList value)), rest)
  | none => .error (.at .openLiteral [])

/-- Whether a character may stand in a number. -/
def isNumberChar (c : Char) : Bool :=
  c.isDigit || c == '.'

/-- Takes the text of a number off the front: an optional minus, then digits and points. -/
def takeNumber : List Char → List Char × List Char
  | '-' :: rest => ('-' :: rest.takeWhile isNumberChar, rest.dropWhile isNumberChar)
  | text => (text.takeWhile isNumberChar, text.dropWhile isNumberChar)

/-- A number. One with more points than a number can have stops where it began. -/
def number : Parser := fun text =>
  let (digits, rest) := takeNumber text
  match Number.ofText? digits with
  | some value => .ok (.literal (.number value), rest)
  | none => .error (.at (.badNumber (String.ofList digits)) text)

/-- Whether a number begins here: a digit, or a minus right before one. -/
def startsNumber : List Char → Bool
  | '-' :: c :: _ => c.isDigit
  | c :: _ => c.isDigit
  | [] => false

/-- The text behind the joint of two steps of a path, if there is a joint. -/
def stepJoint? : List Char → Option (List Char)
  | '?' :: '.' :: rest => some rest
  | '.' :: rest => some rest
  | _ => none

/-- The steps of a path, at most `bound` of them. -/
def steps : Nat → List Char → Except Stop (List String × List Char)
  | 0, text => .ok ([], text)
  | bound + 1, text =>
    match stepJoint? text with
    | none => .ok ([], text)
    | some text =>
      let name := text.takeWhile Text.isFieldChar
      if name.isEmpty then .error (.at .noFieldName text)
      else do
        let (names, rest) ← steps bound (text.dropWhile Text.isFieldChar)
        .ok (String.ofList name :: names, rest)

/-- The scalar that a keyword stands for. -/
def keyword? : String → Option Scalar
  | "true" => some (.bool true)
  | "false" => some (.bool false)
  | "null" => some .null
  | "undefined" => some .undefined
  | _ => none

/-!
### Calls, operators and nesting

The parsers below take the parser of what they enclose as an argument, so that nesting is tied only once, in
`unary`.
-/

/-- Arguments up to the closing parenthesis, at most `bound` of them, each read by `inner`. -/
def arguments (inner : Parser) : Nat → List Char → Except Stop (List Expr × List Char)
  | 0, text => .error (.at .openArguments text)
  | bound + 1, text => do
    let (arg, rest) ← inner text
    match skipBlanks rest with
    | ',' :: rest => do
      let (args, rest) ← arguments inner bound rest
      .ok (arg :: args, rest)
    | ')' :: rest => .ok ([arg], rest)
    | rest => .error (.at .openArguments rest)

/-- What follows the name of a function: its arguments in parentheses, in the right number. -/
def call (bound : Nat) (inner : Parser) (function : Function) : Parser := fun text =>
  match skipBlanks text with
  | '(' :: rest => do
    let (args, rest) ← match skipBlanks rest with
      | ')' :: rest => .ok ([], rest)
      | rest => arguments inner bound rest
    if args.length = function.arity then .ok (.call function args, rest)
    else .error (.fault (.arity function args.length))
  | rest => .error (.at .noArguments rest)

/-- What a name begins: a keyword, a path or a call. -/
def word (bound : Nat) (inner : Parser) : Parser := fun text =>
  let chars := text.takeWhile Text.isNameChar
  let rest := text.dropWhile Text.isNameChar
  let name := String.ofList chars
  if chars.isEmpty then .error (.at .noExpression text)
  else if name = "record" then do
    let (names, rest) ← steps bound rest
    .ok (.path names, rest)
  else
    match keyword? name, Function.ofName? name with
    | some scalar, _ => .ok (.literal scalar, rest)
    | none, some function => call bound inner function rest
    | none, none => .error (.fault (.unknownFunction name))

/-- A parenthesised expression behind its opening parenthesis. -/
def group (inner : Parser) : Parser := fun text => do
  let (expr, rest) ← inner text
  match skipBlanks rest with
  | ')' :: rest => .ok (expr, rest)
  | rest => .error (.at .openGroup rest)

/-- A primary. `inner` reads what stands in parentheses. -/
def primary (bound : Nat) (inner : Parser) : Parser := fun text =>
  match text with
  | '(' :: rest => group inner rest
  | '\'' :: rest => literal '\'' rest
  | '"' :: rest => literal '"' rest
  | text => if startsNumber text then number text else word bound inner text

/-- The rest of a chain of operands, at most `bound` more of them, joined from the left. -/
def chain (join : Expr → Expr → Expr) (symbol : List Char) (operand : Parser) :
    Nat → Expr → Parser
  | 0, left, text => .ok (left, text)
  | bound + 1, left, text =>
    match stripPrefix? symbol (skipBlanks text) with
    | none => .ok (left, skipBlanks text)
    | some rest => do
      let (right, rest) ← operand rest
      chain join symbol operand bound (join left right) rest

/-- One or two unaries, with a relation between two. -/
def compareExpr (unary : Parser) : Parser := fun text => do
  let (left, rest) ← unary text
  match relation? (skipBlanks rest) with
  | none => .ok (left, skipBlanks rest)
  | some (relation, rest) => do
    let (right, rest) ← unary rest
    .ok (.compare relation left right, rest)

/-- Comparisons joined by `&&`. -/
def andExpr (bound : Nat) (unary : Parser) : Parser := fun text => do
  let (left, rest) ← compareExpr unary text
  chain .and ['&', '&'] (compareExpr unary) bound left rest

/-- Conjunctions joined by `||`. -/
def orExpr (bound : Nat) (unary : Parser) : Parser := fun text => do
  let (left, rest) ← andExpr bound unary text
  chain .or ['|', '|'] (andExpr bound unary) bound left rest

/-- A unary with a number of levels left, of which it takes one. -/
def unary (bound : Nat) : Nat → Parser
  | 0, text => .error (.at .tooDeep text)
  | levels + 1, text =>
    match skipBlanks text with
    | '!' :: rest => do
      let (operand, rest) ← unary bound levels rest
      .ok (.not operand, rest)
    | rest => primary bound (orExpr bound (unary bound levels)) rest

/-!
### Whole texts
-/

/-- An expression that takes up the whole text. -/
def wholeExpr (text : List Char) : Except Stop Expr := do
  let (expr, rest) ← orExpr text.length (unary text.length maxLevels) text
  match skipBlanks rest with
  | [] => .ok expr
  | rest => .error (.at .trailingText rest)

/-- The fault of a stop in a text: the place is told by the bytes before it. -/
def Stop.faultIn (text : List Char) : Stop → Fault
  | .at problem rest => .malformed (Text.utf8Size text - Text.utf8Size rest) problem
  | .fault reason => reason

/-- Reads a predicate. -/
def parse (text : String) : Except Fault Expr :=
  (wholeExpr text.toList).mapError (Stop.faultIn text.toList)

end FilterTree.Predicate
