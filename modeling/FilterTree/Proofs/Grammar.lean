/-
Module: FilterTree.Proofs.Grammar
Layer: Proofs
Purpose: The grammar of predicates, said without a parser. A token has one or more spellings, a layout puts
  blanks before the tokens and at the end, and a derivation makes an expression of a list of tokens:
    disjunction := conjunction ("||" conjunction)*
    conjunction := compared ("&&" compared)*
    compared    := unary (relation unary)?
    unary       := "!" unary | primary
    primary     := "(" disjunction ")" | scalar | path | function "(" disjunction ("," disjunction)* ")"
  Chains associate to the left. Every derivation carries the number of levels that it may use, and each
  unary takes one of them for what it encloses.
Imports: Mathlib, FilterTree.Predicate.Parser
Main exports: Token, Token.Spelled, Layout, Grammar.Disjunction, Grammar.Unary, Sentence
-/
import Mathlib
import FilterTree.Predicate.Parser

namespace FilterTree.Predicate

/-- The tokens of predicates. A literal, a path and the name of a function are one token each. -/
inductive Token where
  | openParen
  | closeParen
  | comma
  | bang
  | both
  | either
  | relation (relation : Relation)
  | scalar (value : Scalar)
  | path (steps : List String)
  | function (function : Function)
deriving DecidableEq, Repr

/-!
### Spellings

Most tokens have one spelling. Equality and inequality have a longer one each; a text may stand between
either kind of quotes, with a backslash before any of its characters; a number is any decimal that reads as
it; and each joint of a path is a point, with or without a question mark before it.
-/

/-- What stands between the marks of a literal, and the text that it means. -/
inductive Enclosed (mark : Char) : List Char → List Char → Prop where
  | nil : Enclosed mark [] []
  | plain {c : Char} {inside value : List Char} (notMark : c ≠ mark) (notBackslash : c ≠ '\\')
      (tail : Enclosed mark inside value) : Enclosed mark (c :: inside) (c :: value)
  | escaped {c : Char} {inside value : List Char} (tail : Enclosed mark inside value) :
      Enclosed mark ('\\' :: c :: inside) (c :: value)

/-- A name of one step of a path. -/
def IsSegment (name : List Char) : Prop :=
  name ≠ [] ∧ ∀ c ∈ name, Text.isFieldChar c = true

instance (name : List Char) : Decidable (IsSegment name) :=
  decidable_of_iff (name ≠ [] ∧ name.all Text.isFieldChar = true) (by rw [IsSegment, List.all_eq_true])

/-- The two joints between the steps of a path. -/
def IsJoint (joint : List Char) : Prop :=
  joint = ['.'] ∨ joint = ['?', '.']

/-- The steps of a path, each behind a joint. -/
inductive PathTail : List String → List Char → Prop where
  | nil : PathTail [] []
  | step {joint name tail : List Char} {steps : List String} (joined : IsJoint joint)
      (named : IsSegment name) (rest : PathTail steps tail) :
      PathTail (String.ofList name :: steps) (joint ++ (name ++ tail))

/-- The spellings of a token. -/
inductive Token.Spelled : Token → List Char → Prop where
  | openParen : Spelled .openParen ['(']
  | closeParen : Spelled .closeParen [')']
  | comma : Spelled .comma [',']
  | bang : Spelled .bang ['!']
  | both : Spelled .both ['&', '&']
  | either : Spelled .either ['|', '|']
  | relation (relation : Relation) : Spelled (.relation relation) relation.symbol.toList
  | longEq : Spelled (.relation .eq) ['=', '=', '=']
  | longNe : Spelled (.relation .ne) ['!', '=', '=']
  | text {mark : Char} {inside value : List Char} (quotes : mark = '\'' ∨ mark = '"')
      (enclosed : Enclosed mark inside value) :
      Spelled (.scalar (.text (String.ofList value))) (mark :: (inside ++ [mark]))
  | number {minus digits : List Char} {first : Char} {value : Number} (sign : minus = [] ∨ minus = ['-'])
      (digit : first.isDigit = true) (others : ∀ c ∈ digits, c.isDigit = true ∨ c = '.')
      (reads : Number.ofText? (minus ++ first :: digits) = some value) :
      Spelled (.scalar (.number value)) (minus ++ first :: digits)
  | bool (value : Bool) : Spelled (.scalar (.bool value)) (Scalar.bool value).chars
  | null : Spelled (.scalar .null) Scalar.null.chars
  | undefined : Spelled (.scalar .undefined) Scalar.undefined.chars
  | path {steps : List String} {tail : List Char} (joined : PathTail steps tail) :
      Spelled (.path steps) (['r', 'e', 'c', 'o', 'r', 'd'] ++ tail)
  | function (function : Function) : Spelled (.function function) function.name.toList

/-- The texts that a list of tokens may be laid out as: blanks may stand before every token and at the
    end. -/
inductive Layout : List Token → List Char → Prop where
  | nil {blanks : List Char} (blank : Text.isBlankText blanks = true) : Layout [] blanks
  | cons {token : Token} {tokens : List Token} {blanks spelling rest : List Char}
      (blank : Text.isBlankText blanks = true) (spelled : token.Spelled spelling)
      (tail : Layout tokens rest) : Layout (token :: tokens) (blanks ++ (spelling ++ rest))

namespace Layout

/-- Blanks in front of a layout are part of it. -/
theorem blanks_append {blanks text : List Char} {tokens : List Token}
    (hb : Text.isBlankText blanks = true) (h : Layout tokens text) : Layout tokens (blanks ++ text) := by
  cases h with
  | nil blank => exact .nil (by simp_all [Text.isBlankText])
  | @cons token tokens inner spelling rest blank spelled tail =>
      rw [← List.append_assoc]
      exact .cons (by simp_all [Text.isBlankText]) spelled tail

/-- Two layouts one behind the other lay out their tokens one behind the other. -/
theorem append {first second : List Token} {a b : List Char} (ha : Layout first a)
    (hb : Layout second b) : Layout (first ++ second) (a ++ b) := by
  induction ha with
  | nil blank => exact hb.blanks_append blank
  | cons blank spelled _ ih =>
      rw [List.append_assoc, List.append_assoc]
      exact .cons blank spelled ih

/-- A layout of tokens one behind the other falls into two layouts. -/
theorem split {first second : List Token} {text : List Char} (h : Layout (first ++ second) text) :
    ∃ a b, text = a ++ b ∧ Layout first a ∧ Layout second b := by
  induction first generalizing text with
  | nil => exact ⟨[], text, rfl, .nil rfl, h⟩
  | cons token first ih =>
      cases h with
      | @cons _ _ blanks spelling rest blank spelled tail =>
          obtain ⟨a, b, rfl, ha, hb⟩ := ih tail
          exact ⟨blanks ++ (spelling ++ a), b, by simp, .cons blank spelled ha, hb⟩

/-- A layout around one token in the middle: what stands before it, its blanks, its spelling and what stands
    behind it. -/
theorem split_at {first second : List Token} {token : Token} {text : List Char}
    (h : Layout (first ++ token :: second) text) :
    ∃ a blanks spelling b, text = a ++ (blanks ++ (spelling ++ b)) ∧ Layout first a ∧
      Text.isBlankText blanks = true ∧ token.Spelled spelling ∧ Layout second b := by
  obtain ⟨a, behind, rfl, ha, hbehind⟩ := h.split
  cases hbehind with
  | @cons _ _ blanks spelling rest blank spelled tail =>
      exact ⟨a, blanks, spelling, rest, rfl, ha, blank, spelled, tail⟩

/-- One spelling lays out its token. -/
theorem single {token : Token} {spelling : List Char} (spelled : token.Spelled spelling) :
    Layout [token] spelling := by
  simpa using @Layout.cons token [] [] spelling [] rfl spelled (.nil rfl)

end Layout

/-!
### Derivations
-/

namespace Grammar

mutual

/-- Conjunctions joined by `||`. -/
inductive Disjunction : Nat → List Token → Expr → Prop where
  | single {levels : Nat} {tokens : List Token} {expr : Expr} (conjunction : Conjunction levels tokens expr) :
      Disjunction levels tokens expr
  | join {levels : Nat} {before after : List Token} {left right : Expr}
      (disjunction : Disjunction levels before left) (conjunction : Conjunction levels after right) :
      Disjunction levels (before ++ .either :: after) (.or left right)

/-- Comparisons joined by `&&`. -/
inductive Conjunction : Nat → List Token → Expr → Prop where
  | single {levels : Nat} {tokens : List Token} {expr : Expr} (compared : Compared levels tokens expr) :
      Conjunction levels tokens expr
  | join {levels : Nat} {before after : List Token} {left right : Expr}
      (conjunction : Conjunction levels before left) (compared : Compared levels after right) :
      Conjunction levels (before ++ .both :: after) (.and left right)

/-- One unary, or two with a relation between them. -/
inductive Compared : Nat → List Token → Expr → Prop where
  | single {levels : Nat} {tokens : List Token} {expr : Expr} (unary : Unary levels tokens expr) :
      Compared levels tokens expr
  | related {levels : Nat} {before after : List Token} {left right : Expr} (relation : Relation)
      (first : Unary levels before left) (second : Unary levels after right) :
      Compared levels (before ++ .relation relation :: after) (.compare relation left right)

/-- A negation or a primary, which takes one level. -/
inductive Unary : Nat → List Token → Expr → Prop where
  | not {levels : Nat} {tokens : List Token} {expr : Expr} (unary : Unary levels tokens expr) :
      Unary (levels + 1) (.bang :: tokens) (.not expr)
  | primary {levels : Nat} {tokens : List Token} {expr : Expr} (primary : Primary levels tokens expr) :
      Unary (levels + 1) tokens expr

/-- What stands in parentheses, a scalar, a path, or a call with as many arguments as its function takes. -/
inductive Primary : Nat → List Token → Expr → Prop where
  | group {levels : Nat} {tokens : List Token} {expr : Expr} (inner : Disjunction levels tokens expr) :
      Primary levels (.openParen :: (tokens ++ [.closeParen])) expr
  | scalar {levels : Nat} (value : Scalar) : Primary levels [.scalar value] (.literal value)
  | path {levels : Nat} (steps : List String) : Primary levels [.path steps] (.path steps)
  | call {levels : Nat} {function : Function} {tokens : List Token} {args : List Expr}
      (arguments : Arguments levels tokens args) (arity : args.length = function.arity) :
      Primary levels (.function function :: .openParen :: (tokens ++ [.closeParen])) (.call function args)

/-- Disjunctions between commas. -/
inductive Arguments : Nat → List Token → List Expr → Prop where
  | single {levels : Nat} {tokens : List Token} {arg : Expr} (inner : Disjunction levels tokens arg) :
      Arguments levels tokens [arg]
  | more {levels : Nat} {tokens others : List Token} {arg : Expr} {args : List Expr}
      (inner : Disjunction levels tokens arg) (rest : Arguments levels others args) :
      Arguments levels (tokens ++ .comma :: others) (arg :: args)

end

mutual

/-- More levels derive no less. -/
theorem Disjunction.mono {levels more : Nat} (h : levels ≤ more) : ∀ {tokens : List Token} {expr : Expr},
    Disjunction levels tokens expr → Disjunction more tokens expr
  | _, _, .single conjunction => .single (conjunction.mono h)
  | _, _, .join disjunction conjunction => .join (disjunction.mono h) (conjunction.mono h)

theorem Conjunction.mono {levels more : Nat} (h : levels ≤ more) : ∀ {tokens : List Token} {expr : Expr},
    Conjunction levels tokens expr → Conjunction more tokens expr
  | _, _, .single compared => .single (compared.mono h)
  | _, _, .join conjunction compared => .join (conjunction.mono h) (compared.mono h)

theorem Compared.mono {levels more : Nat} (h : levels ≤ more) : ∀ {tokens : List Token} {expr : Expr},
    Compared levels tokens expr → Compared more tokens expr
  | _, _, .single unary => .single (unary.mono h)
  | _, _, .related relation first second => .related relation (first.mono h) (second.mono h)

theorem Unary.mono {levels more : Nat} (h : levels ≤ more) : ∀ {tokens : List Token} {expr : Expr},
    Unary levels tokens expr → Unary more tokens expr
  | _, _, .not unary => by
      obtain ⟨more, rfl⟩ := Nat.exists_eq_add_of_lt h
      exact .not (unary.mono (by omega))
  | _, _, .primary primary => by
      obtain ⟨more, rfl⟩ := Nat.exists_eq_add_of_lt h
      exact .primary (primary.mono (by omega))

theorem Primary.mono {levels more : Nat} (h : levels ≤ more) : ∀ {tokens : List Token} {expr : Expr},
    Primary levels tokens expr → Primary more tokens expr
  | _, _, .group inner => .group (inner.mono h)
  | _, _, .scalar value => .scalar value
  | _, _, .path steps => .path steps
  | _, _, .call arguments arity => .call (arguments.mono h) arity

theorem Arguments.mono {levels more : Nat} (h : levels ≤ more) : ∀ {tokens : List Token} {args : List Expr},
    Arguments levels tokens args → Arguments more tokens args
  | _, _, .single inner => .single (inner.mono h)
  | _, _, .more inner rest => .more (inner.mono h) (rest.mono h)

end

end Grammar

/-- A text says an expression when it lays out tokens that derive it within the levels of the language. -/
def Sentence (text : String) (expr : Expr) : Prop :=
  ∃ tokens, Layout tokens text.toList ∧ Grammar.Disjunction maxLevels tokens expr

end FilterTree.Predicate
