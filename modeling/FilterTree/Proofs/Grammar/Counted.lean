/-
Module: FilterTree.Proofs.Grammar.Counted
Layer: Proofs
Purpose: The parser with a counter of open levels and without bounds. The parsers of the language get the levels
  that are left as an argument and bound their loops by a number; here the levels that are open stand in a
  counter, which a unary raises when it begins and lowers when it is over, and which a failure leaves behind as
  a success does. Loops and nesting end because every reader gives back a proof that the text left is a shorter
  end of its text: nesting is tied in `unary`, by recursion on the length of the text.
Imports: FilterTree.Proofs.Grammar.Soundness
Main exports: Counter, Counting, level, Further, Advance, Counted.orExpr, Counted.unary, Part, Part.read
-/
import FilterTree.Proofs.Grammar.Soundness

namespace FilterTree.Predicate

open Text (skipBlanks stripPrefix?)

/-! ### Counting levels -/

/-- How many levels are open, and the most that were open at once. -/
structure Counter where
  depth : Nat
  deepest : Nat
deriving DecidableEq, Repr

/-- A step that counts levels. It leaves a counter whether it succeeds or fails. -/
def Counting (α : Type) : Type :=
  Counter → Except Stop α × Counter

namespace Counting

/-- A step that fails where it is. -/
def fail {α : Type} (stop : Stop) : Counting α := fun counter =>
  (.error stop, counter)

instance : Monad Counting where
  pure value := fun counter => (.ok value, counter)
  bind step next := fun counter =>
    match step counter with
    | (.ok value, after) => next value after
    | (.error stop, after) => (.error stop, after)

section Bind

variable {α β : Type} {step : Counting α} {counter after : Counter}

/-- Behind a step that succeeds the next one begins with the counter that it left. -/
theorem bind_ok {value : α} (h : step counter = (.ok value, after)) (next : α → Counting β) :
    (step >>= next) counter = next value after := by
  simp only [Bind.bind, h]

/-- A step that fails is the end, and its counter stays. -/
theorem bind_error {stop : Stop} (h : step counter = (.error stop, after)) (next : α → Counting β) :
    (step >>= next) counter = (.error stop, after) := by
  simp only [Bind.bind, h]

end Bind

end Counting

/-- One level around a step. It is opened when fewer than the most are open, and closed when the step is over. -/
def level {α : Type} (text : List Char) (step : Counting α) : Counting α := fun counter =>
  if maxLevels ≤ counter.depth then (.error (.at .tooDeep text), counter)
  else
    let (result, after) := step ⟨counter.depth + 1, max counter.deepest (counter.depth + 1)⟩
    (result, { after with depth := after.depth - 1 })

/-! ### Progress -/

/-- A text that is left further on in a text: an end of it, and not all of it. -/
structure Further (rest text : List Char) : Prop where
  ends : rest <:+ text
  shorter : rest.length < text.length

namespace Further

variable {first second third : List Char}

theorem trans (h : Further first second) (ends : second <:+ third) : Further first third :=
  ⟨h.ends.trans ends, Nat.lt_of_lt_of_le h.shorter ends.length_le⟩

theorem behind (ends : first <:+ second) (h : Further second third) : Further first third :=
  ⟨ends.trans h.ends, Nat.lt_of_le_of_lt ends.length_le h.shorter⟩

/-- What stands behind something is further on. -/
theorem of_append {taken rest : List Char} (nonempty : taken ≠ []) : Further rest (taken ++ rest) := by
  refine ⟨List.suffix_append taken rest, ?_⟩
  have := List.length_pos_iff.mpr nonempty
  rw [List.length_append]
  omega

theorem of_cons (c : Char) (rest : List Char) : Further rest (c :: rest) :=
  of_append (List.cons_ne_nil c [])

end Further

theorem skipBlanks_suffix (text : List Char) : skipBlanks text <:+ text :=
  List.dropWhile_suffix Text.isBlank

/-- What stands behind the first character that is no blank is further on. -/
theorem further_of_skipBlanks {text rest : List Char} {c : Char} (h : skipBlanks text = c :: rest) :
    Further rest text :=
  (Further.of_cons c rest).trans (h ▸ skipBlanks_suffix text)

/-- What stands behind a part of a text without the blanks in front is further on. -/
theorem further_of_part {text part rest : List Char} (nonempty : part ≠ []) (h : skipBlanks text = part ++ rest) :
    Further rest text :=
  (Further.of_append nonempty).trans (h ▸ skipBlanks_suffix text)

theorem further_of_symbol {symbol text rest : List Char} (nonempty : symbol ≠ [])
    (h : stripPrefix? symbol (skipBlanks text) = some rest) : Further rest text :=
  further_of_part nonempty (stripPrefix?_eq_some h)

theorem Token.Spelled.ne_nil {token : Token} {spelling : List Char} (spelled : token.Spelled spelling) :
    spelling ≠ [] := by
  cases spelled with
  | relation relation => cases relation <;> decide
  | function function => cases function <;> decide
  | bool value => cases value <;> decide
  | number sign => rcases sign with rfl | rfl <;> simp
  | _ => simp [Scalar.chars]

theorem further_of_relation {text rest : List Char} {relation : Relation}
    (h : relation? (skipBlanks text) = some (relation, rest)) : Further rest text := by
  obtain ⟨spelling, htext, spelled⟩ := relation?_sound h
  exact further_of_part spelled.ne_nil htext

theorem further_of_joint {text rest : List Char} (h : stepJoint? text = some rest) : Further rest text := by
  obtain ⟨joint, rfl, rfl | rfl⟩ := stepJoint?_sound h
  · exact .of_cons _ _
  · exact .of_append (by simp)

theorem further_of_run {p : Char → Bool} {text : List Char} (nonempty : text.takeWhile p ≠ []) :
    Further (text.dropWhile p) text := by
  have further : Further (text.dropWhile p) (text.takeWhile p ++ text.dropWhile p) := .of_append nonempty
  rwa [List.takeWhile_append_dropWhile] at further

theorem further_of_literal {mark : Char} {text rest : List Char} {expr : Expr}
    (h : literal mark text = .ok (expr, rest)) : Further rest text := by
  obtain ⟨inside, value, rfl, -, -⟩ := literal_sound h
  exact (Further.of_cons mark rest).trans (List.suffix_append inside (mark :: rest))

theorem further_of_number {text rest : List Char} {expr : Expr} (starts : startsNumber text = true)
    (h : number text = .ok (expr, rest)) : Further rest text := by
  obtain ⟨spelling, value, rfl, spelled, -⟩ := number_sound starts h
  exact .of_append spelled.ne_nil

/-- What was read off the front of a text, and the text that is left further on. -/
structure Advance (α : Type) (text : List Char) where
  value : α
  rest : List Char
  further : Further rest text

namespace Advance

variable {α β : Type} {text whole : List Char}

/-- The same place with another value. -/
def map (f : α → β) (advance : Advance α text) : Advance β text :=
  ⟨f advance.value, advance.rest, advance.further⟩

/-- The same value with less of the text left. -/
def onTo (advance : Advance α text) (rest : List Char) (ends : rest <:+ advance.rest) : Advance α text :=
  ⟨advance.value, rest, .behind ends advance.further⟩

/-- What was read off an end of a text was read off the text. -/
def within (ends : text <:+ whole) (advance : Advance α text) : Advance α whole :=
  ⟨advance.value, advance.rest, advance.further.trans ends⟩

/-- The value and what is left, as the parsers of the language give them back. -/
def pair (advance : Advance α text) : α × List Char :=
  (advance.value, advance.rest)

end Advance

/-! ### Readers -/

/-- A reader of the texts that are shorter than a limit. -/
abbrev Reader (limit : Nat) :=
  (text : List Char) → text.length < limit → Counting (Advance Expr text)

namespace Counted

variable {limit : Nat}

/-- A reader that opens no level. -/
def settled {text : List Char} (result : Except Stop (Expr × List Char))
    (advances : ∀ value rest, result = .ok (value, rest) → Further rest text) : Counting (Advance Expr text) :=
  match result, advances with
  | .ok (value, rest), advances => pure ⟨value, rest, advances value rest rfl⟩
  | .error stop, _ => .fail stop

/-- The steps of a path behind those that were read, as long as a joint follows. -/
def steps {text : List Char} (here : Advance (List String) text) : Counting (Advance (List String) text) :=
  match found : stepJoint? here.rest with
  | none => pure here
  | some after =>
    have joined : Further after here.rest := further_of_joint found
    have named : after.dropWhile Text.isFieldChar <:+ after := List.dropWhile_suffix _
    let name := after.takeWhile Text.isFieldChar
    if name.isEmpty then .fail (.at .noFieldName after)
    else steps ⟨here.value ++ [String.ofList name], after.dropWhile Text.isFieldChar,
      .behind (named.trans joined.ends) here.further⟩
termination_by here.rest.length
decreasing_by exact (Further.behind named joined).shorter

/-- Arguments up to the closing parenthesis, each read by `inner`. -/
def arguments (inner : Reader limit) (text : List Char) (fits : text.length < limit) :
    Counting (Advance (List Expr) text) := do
  let arg ← inner text fits
  match found : skipBlanks arg.rest with
  | ',' :: after =>
    have behind : Further after text := .behind (further_of_skipBlanks found).ends arg.further
    let args ← arguments inner after (Nat.lt_trans behind.shorter fits)
    pure ((args.within behind.ends).map (arg.value :: ·))
  | ')' :: after => pure ((arg.onTo after (further_of_skipBlanks found).ends).map ([·]))
  | after => .fail (.at .openArguments after)
termination_by text.length
decreasing_by exact behind.shorter

/-- What stands behind an opening parenthesis, if it is not the closing one: arguments. -/
def enclosed (inner : Reader limit) (text : List Char) (fits : text.length < limit) :
    Counting (Advance (List Expr) text) :=
  match closed : skipBlanks text with
  | ')' :: rest => pure ⟨[], rest, further_of_skipBlanks closed⟩
  | _ => do
    let args ← arguments inner (skipBlanks text) (Nat.lt_of_le_of_lt (skipBlanks_suffix text).length_le fits)
    pure (args.within (skipBlanks_suffix text))

theorem enclosed_closed {inner : Reader limit} {text rest : List Char} (fits : text.length < limit)
    (closed : skipBlanks text = ')' :: rest) :
    enclosed inner text fits = pure ⟨[], rest, further_of_skipBlanks closed⟩ := by
  unfold enclosed
  split
  case h_1 other found =>
    cases found.symm.trans closed
    rfl
  case h_2 notClosed => exact absurd closed (notClosed rest)

theorem enclosed_open {inner : Reader limit} {text : List Char} (fits : text.length < limit)
    (notClosed : ∀ rest, skipBlanks text ≠ ')' :: rest) :
    enclosed inner text fits =
      arguments inner (skipBlanks text) (Nat.lt_of_le_of_lt (skipBlanks_suffix text).length_le fits) >>=
        fun args => pure (args.within (skipBlanks_suffix text)) := by
  unfold enclosed
  split
  case h_1 rest closed => exact absurd closed (notClosed rest)
  case h_2 => rfl

/-- What follows the name of a function: its arguments in parentheses, in the right number. -/
def call (inner : Reader limit) (function : Function) : Reader limit := fun text fits =>
  match found : skipBlanks text with
  | '(' :: after => do
    have opened : Further after text := further_of_skipBlanks found
    let args ← enclosed inner after (Nat.lt_trans opened.shorter fits)
    if args.value.length = function.arity then pure ((args.within opened.ends).map (.call function))
    else .fail (.fault (.arity function args.value.length))
  | after => .fail (.at .noArguments after)

/-- What a name begins: a keyword, a path or a call. -/
def word (inner : Reader limit) (text : List Char) (fits : text.length ≤ limit) : Counting (Advance Expr text) :=
  let chars := text.takeWhile Text.isNameChar
  let rest := text.dropWhile Text.isNameChar
  let name := String.ofList chars
  if nameless : chars.isEmpty then .fail (.at .noExpression text)
  else
    have named : Further rest text := further_of_run (by simpa [chars] using nameless)
    if name = "record" then do
      let path ← steps (⟨[], rest, named⟩ : Advance (List String) text)
      pure (path.map .path)
    else
      match keyword? name, Function.ofName? name with
      | some scalar, _ => pure ⟨.literal scalar, rest, named⟩
      | none, some function => do
        let result ← call inner function rest (Nat.lt_of_lt_of_le named.shorter fits)
        pure (result.within named.ends)
      | none, none => .fail (.fault (.unknownFunction name))

/-- A parenthesised expression behind its opening parenthesis. -/
def group (inner : Reader limit) : Reader limit := fun text fits => do
  let expr ← inner text fits
  match found : skipBlanks expr.rest with
  | ')' :: after => pure (expr.onTo after (further_of_skipBlanks found).ends)
  | after => .fail (.at .openGroup after)

/-- A primary. `inner` reads what stands in parentheses. -/
def primary (inner : Reader limit) (text : List Char) (fits : text.length ≤ limit) :
    Counting (Advance Expr text) :=
  match found : skipBlanks text with
  | '(' :: after => do
    have opened : Further after text := further_of_skipBlanks found
    let expr ← group inner after (Nat.lt_of_lt_of_le opened.shorter fits)
    pure (expr.within opened.ends)
  | '\'' :: after => settled (literal '\'' after) fun _ _ h =>
    (further_of_literal h).trans (further_of_skipBlanks found).ends
  | '"' :: after => settled (literal '"' after) fun _ _ h =>
    (further_of_literal h).trans (further_of_skipBlanks found).ends
  | _ =>
    if starts : startsNumber (skipBlanks text) then
      settled (number (skipBlanks text)) fun _ _ h => (further_of_number starts h).trans (skipBlanks_suffix text)
    else do
      let expr ← word inner (skipBlanks text) (Nat.le_trans (skipBlanks_suffix text).length_le fits)
      pure (expr.within (skipBlanks_suffix text))

/-- The operands behind those that were read, as long as their symbol stands in front of another. -/
def chain (join : Expr → Expr → Expr) (mark : Char) (operand : Reader limit) {text : List Char}
    (fits : text.length < limit) (left : Advance Expr text) : Counting (Advance Expr text) :=
  match found : stripPrefix? [mark, mark] (skipBlanks left.rest) with
  | none => pure (left.onTo (skipBlanks left.rest) (skipBlanks_suffix left.rest))
  | some after => do
    have behind : Further after left.rest := further_of_symbol (by simp) found
    have further : Further after text := .behind behind.ends left.further
    let right ← operand after (Nat.lt_trans further.shorter fits)
    chain join mark operand fits ((right.within further.ends).map (join left.value))
termination_by left.rest.length
decreasing_by exact Nat.lt_trans right.further.shorter behind.shorter

/-- One or two unaries, with a relation between two. -/
def compareExpr (unary : Reader limit) : Reader limit := fun text fits => do
  let left ← unary text fits
  match found : relation? (skipBlanks left.rest) with
  | none => pure (left.onTo (skipBlanks left.rest) (skipBlanks_suffix left.rest))
  | some (relation, after) =>
    have behind : Further after text := .behind (further_of_relation found).ends left.further
    let right ← unary after (Nat.lt_trans behind.shorter fits)
    pure ((right.within behind.ends).map (.compare relation left.value))

/-- Comparisons joined by `&&`. -/
def andExpr (unary : Reader limit) : Reader limit := fun text fits => do
  let left ← compareExpr unary text fits
  chain .and '&' (compareExpr unary) fits left

/-- Conjunctions joined by `||`. -/
def orExpr (unary : Reader limit) : Reader limit := fun text fits => do
  let left ← andExpr unary text fits
  chain .or '|' (andExpr unary) fits left

/-- A unary. It takes a level for what it encloses. -/
def unary (text : List Char) : Counting (Advance Expr text) :=
  level text
    (match found : skipBlanks text with
    | '!' :: after => do
      have behind : Further after text := further_of_skipBlanks found
      let operand ← unary after
      pure ((operand.within behind.ends).map .not)
    | _ => primary (orExpr fun inside _ => unary inside) text (Nat.le_refl text.length))
termination_by text.length
decreasing_by
  · exact behind.shorter
  · assumption

end Counted

/-! ### The parts of the grammar -/

/-- The parts of the grammar that enclose each other. -/
inductive Part where
  | or
  | and
  | compare
  | unary
  | primary
deriving DecidableEq, Repr

/-- The counting reader of a part. -/
def Part.read (part : Part) (text : List Char) : Counting (Advance Expr text) :=
  let unary : Reader (text.length + 1) := fun inside _ => Counted.unary inside
  match part with
  | .or => Counted.orExpr unary text (Nat.lt_succ_self text.length)
  | .and => Counted.andExpr unary text (Nat.lt_succ_self text.length)
  | .compare => Counted.compareExpr unary text (Nat.lt_succ_self text.length)
  | .unary => Counted.unary text
  | .primary => Counted.primary (Counted.orExpr unary) text (Nat.le_succ text.length)

/-- The parser of a part, with a bound for its loops and the number of levels that are left. Blanks in front of a
    primary are skipped. -/
def Part.parser (bound levels : Nat) : Part → Parser
  | .or => orExpr bound (Predicate.unary bound levels)
  | .and => andExpr bound (Predicate.unary bound levels)
  | .compare => compareExpr (Predicate.unary bound levels)
  | .unary => Predicate.unary bound levels
  | .primary => fun text => Predicate.primary bound (orExpr bound (Predicate.unary bound levels)) (skipBlanks text)

end FilterTree.Predicate
