/-
Module: FilterTree.Proofs.Tree.Comparisons
Layer: Proofs
Purpose: The text of one comparison as tokens. Each question lays out what it asks of the field, and of two
  sides a relation and the right side behind it; the tokens derive the expression of the question within its
  levels, and with fewer levels the parser refuses the text.
Imports: FilterTree.Proofs.Grammar.Refusal, FilterTree.Proofs.Number.ReadBack,
  FilterTree.Proofs.Tree.Meaning
Main exports: spelled_literal, Check.reachedText, Phrase, Check.phrases, Check.deep
-/
import FilterTree.Proofs.Grammar.Refusal
import FilterTree.Proofs.Number.ReadBack
import FilterTree.Proofs.Tree.Meaning

namespace FilterTree

open Predicate

/-! ### Literals -/

/-- Writing a text with escapes encloses it in single quotes. -/
theorem enclosed_escape (value : List Char) : Enclosed '\'' (Text.escape value) value := by
  induction value with
  | nil => exact .nil
  | cons c value ih =>
      rw [Text.escape]
      split
      case isTrue => exact .escaped ih
      case isFalse plain =>
        simp only [Bool.or_eq_true, decide_eq_true_eq, not_or] at plain
        exact .plain plain.2 plain.1 ih

/-- The text of a finite number spells it. -/
theorem spelled_number {number : Number} (finite : number.isFinite = true) :
    (Token.scalar (.number number)).Spelled number.chars := by
  have reads := Number.ofText?_chars finite
  cases number with
  | nan => cases finite
  | infinity _ => cases finite
  | finite negative rank =>
      obtain ⟨⟨⟨first, others, hfirst, digit⟩, inside⟩, -⟩ := Number.decimal?_magnitudeText negative rank
      rw [Number.chars_finite, hfirst] at reads ⊢
      rw [hfirst] at inside
      refine .number ?_ digit (fun c hc => inside c (List.mem_cons_of_mem first hc)) reads
      cases negative with
      | true => exact .inr rfl
      | false => exact .inl rfl

/-- The literal of a scalar spells it, unless it is an infinity or a NaN. -/
theorem spelled_literal {value : Scalar} (finite : ∀ number, value = .number number → number.isFinite = true) :
    (Token.scalar value).Spelled value.literal := by
  cases value with
  | text value =>
      have spelled := Token.Spelled.text (.inl rfl) (enclosed_escape value.toList)
      rw [String.ofList_toList] at spelled
      exact spelled
  | number number => exact spelled_number (finite number rfl)
  | bool value => exact .bool value
  | null => exact .null
  | undefined => exact .undefined

theorem spelled_zero : (Token.scalar (.number .zero)).Spelled ['0'] :=
  spelled_number rfl

/-! ### Paths -/

/-- The text of a path to a field. -/
def pathText (field : List Char) : List Char :=
  ['r', 'e', 'c', 'o', 'r', 'd'] ++ ('?' :: '.' :: field)

theorem not_mem_segment {name : List Char} (named : IsSegment name) : '.' ∉ name ∧ '?' ∉ name := by
  constructor <;> intro hmem <;> exact absurd (named.2 _ hmem) (by decide)

theorem filter_segment {name : List Char} (named : IsSegment name) : name.filter (· != '?') = name := by
  rw [List.filter_eq_self]
  intro c hc
  rw [bne_iff_ne]
  rintro rfl
  exact (not_mem_segment named).2 hc

/-- Behind any joint, a path field is the tail of a path along its segments. -/
theorem pathTail_of_isPath {field : List Char} (path : IsPath field) {joint : List Char}
    (joined : IsJoint joint) :
    PathTail ((Text.splitOn '.' (field.filter (· != '?'))).map String.ofList) (joint ++ field) := by
  induction path generalizing joint with
  | @last name named =>
      rw [filter_segment named, Text.splitOn_none (not_mem_segment named).1]
      have tail := PathTail.step joined named .nil
      rw [List.append_nil] at tail
      exact tail
  | @step name inner tail named innerJoined rest ih =>
      have hpoint : inner.filter (· != '?') = ['.'] := by
        rcases innerJoined with rfl | rfl <;> rfl
      rw [List.filter_append, List.filter_append, filter_segment named, hpoint, List.singleton_append,
        Text.splitOn_append (not_mem_segment named).1, List.map_cons]
      exact .step joined named (ih innerJoined)

/-- The path to a path field spells its segments. -/
theorem Comparison.Clean.spelled_path {comparison : Comparison} (clean : comparison.Clean) :
    (Token.path comparison.steps).Spelled (pathText comparison.field.toList) :=
  .path (pathTail_of_isPath clean.path (.inr rfl))

/-! ### The two sides of a question -/

/-- The text of a call with one argument. -/
def callText (function : Function) (argument : List Char) : List Char :=
  function.name.toList ++ '(' :: (argument ++ [')'])

namespace Check

/-- The text of what a question asks of the field: what a negation in front of it reaches. -/
def reachedText (field value : List Char) : Check → List Char
  | .compared _ => pathText field
  | .constant _ _ => pathText field
  | .size _ => callText .len (pathText field)
  | .day _ => callText .date (pathText field)
  | .matching function negated =>
    (if negated then ['!'] else []) ++ (function.name.toList ++
      '(' :: (callText .lower (pathText field) ++ (',' :: ' ' :: (callText .lower value ++ [')']))))

/-- The relation of a question with two sides, and the text of its right side. -/
def opposedText (value : List Char) : Check → Option (Relation × List Char)
  | .compared relation => some (relation, value)
  | .constant relation scalar => some (relation, scalar.chars)
  | .size relation => some (relation, ['0'])
  | .day relation => some (relation, callText .date value)
  | .matching _ _ => none

/-- The text of a relation and a right side. -/
def behind : Option (Relation × List Char) → List Char
  | none => []
  | some (relation, text) => ' ' :: (relation.symbol.toList ++ ' ' :: text)

/-- The template of a question, filled in, is its left side and what stands behind that. -/
theorem fill_pieces (check : Check) (field value : List Char) :
    check.pieces.flatMap (Piece.fill field value) =
      check.reachedText field value ++ behind (check.opposedText value) := by
  cases check with
  | compared relation =>
      cases relation <;> simp [pieces, Piece.fill, reachedText, opposedText, behind, pathText, Relation.symbol]
  | constant relation scalar =>
      cases relation <;>
        simp [pieces, Piece.fill, reachedText, opposedText, behind, pathText, Relation.symbol, Scalar.bareText]
  | size relation =>
      cases relation <;>
        simp [pieces, Piece.fill, reachedText, opposedText, behind, pathText, callText, Relation.symbol,
          Function.name]
  | day relation =>
      cases relation <;>
        simp [pieces, Piece.fill, reachedText, opposedText, behind, pathText, callText, Relation.symbol,
          Function.name]
  | matching function negated =>
      cases negated <;> cases function <;>
        simp [pieces, Piece.fill, reachedText, opposedText, behind, pathText, callText, Function.name]

end Check

/-! ### Phrases -/

/-- A text lays out tokens that derive an expression with a number of levels or more. -/
def Phrase (levels : Nat) (text : List Char) (expr : Expr) : Prop :=
  ∃ tokens, Layout tokens text ∧ ∀ more, Grammar.Unary (more + levels) tokens expr

namespace Phrase

variable {levels : Nat} {text : List Char} {expr : Expr}

/-- More levels do no harm. -/
theorem mono {more : Nat} (h : levels ≤ more) (phrase : Phrase levels text expr) : Phrase more text expr := by
  obtain ⟨tokens, layout, derivation⟩ := phrase
  refine ⟨tokens, layout, fun extra => ?_⟩
  have := derivation (extra + (more - levels))
  rwa [show extra + (more - levels) + levels = extra + more by omega] at this

theorem path {names : List String} (layout : Layout [.path names] text) : Phrase 1 text (.path names) :=
  ⟨_, layout, fun _ => .primary (.path names)⟩

theorem scalar {value : Scalar} (layout : Layout [.scalar value] text) : Phrase 1 text (.literal value) :=
  ⟨_, layout, fun _ => .primary (.scalar value)⟩

theorem not (phrase : Phrase levels text expr) : Phrase (levels + 1) ('!' :: text) (.not expr) := by
  obtain ⟨tokens, layout, derivation⟩ := phrase
  exact ⟨_, (Layout.single .bang).append layout, fun more => .not (derivation more)⟩

/-- A unary is a whole disjunction where one is wanted. -/
theorem disjunction {tokens : List Token} (h : Grammar.Unary levels tokens expr) :
    Grammar.Disjunction levels tokens expr :=
  .single (.single (.single h))

theorem call {function : Function} (arity : function.arity = 1) (phrase : Phrase levels text expr) :
    Phrase (levels + 1) (callText function text) (.call function [expr]) := by
  obtain ⟨tokens, layout, derivation⟩ := phrase
  refine ⟨.function function :: .openParen :: (tokens ++ [.closeParen]), ?_, fun more => ?_⟩
  · exact (Layout.single (.function function)).append
      ((Layout.single .openParen).append (layout.append (Layout.single .closeParen)))
  · exact .primary (.call (.single (disjunction (derivation more))) arity.symm)

theorem callTwo {function : Function} {other : List Char} {second : Expr} (arity : function.arity = 2)
    (phrase : Phrase levels text expr) (more : Phrase levels other second) :
    Phrase (levels + 1) (function.name.toList ++ '(' :: (text ++ (',' :: ' ' :: (other ++ [')']))))
      (.call function [expr, second]) := by
  obtain ⟨tokens, layout, derivation⟩ := phrase
  obtain ⟨others, layoutOther, derivationOther⟩ := more
  refine ⟨.function function :: .openParen :: ((tokens ++ .comma :: others) ++ [.closeParen]), ?_,
    fun more => ?_⟩
  · have inside := layout.append ((Layout.single .comma).append
      (Layout.blanks_append Text.isBlankText_space (layoutOther.append (Layout.single .closeParen))))
    have whole := (Layout.single (.function function)).append ((Layout.single .openParen).append inside)
    simpa using whole
  · exact .primary (.call (.more (disjunction (derivation more)) (.single (disjunction (derivationOther more))))
      arity.symm)

/-- A phrase is read where enough levels are left. -/
theorem reads (phrase : Phrase levels text expr) {bound left : Nat} {rest : List Char} (apart : Apart rest)
    (hbound : (text ++ rest).length ≤ bound) (enough : levels ≤ left) :
    Leaves (unary bound left) text expr rest := by
  obtain ⟨tokens, layout, derivation⟩ := phrase
  have h := derivation (left - levels)
  rw [Nat.sub_add_cancel enough] at h
  exact unary_complete bound h layout apart hbound

end Phrase

/-! ### Questions as phrases -/

namespace Check

/-- The function of a match takes two arguments, and the bare text of a constant spells it. -/
def Readable : Check → Prop
  | .matching function _ => function.arity = 2
  | .constant _ scalar => (Token.scalar scalar).Spelled scalar.chars
  | _ => True

/-- The questions of all operators can be read. -/
theorem readable (operator : Operator) : operator.check.Readable := by
  cases operator <;> first | exact trivial | rfl | exact .null | exact .undefined

/-- The text of a right side says what the other side is compared with. -/
inductive Opposes (levels : Nat) : Option (Relation × List Char) → Option (Relation × Expr) → Prop where
  | nothing : Opposes levels none none
  | something {text : List Char} {expr : Expr} (relation : Relation) (phrase : Phrase levels text expr) :
      Opposes levels (some (relation, text)) (some (relation, expr))

/-- Both sides of a question are phrases within its levels, when the text of the path and, where it is looked
    at, that of the value are. -/
theorem phrases {check : Check} {names : List String} {value : Scalar} {field written : List Char}
    (readable : check.Readable) (hpath : Layout [.path names] (pathText field))
    (hvalue : .value ∈ check.pieces → Layout [.scalar value] written) :
    Phrase check.levels (check.reachedText field written) (Term.ofExpr (check.expr names value)).reached ∧
      Opposes check.levels (check.opposedText written) (Term.ofExpr (check.expr names value)).compared := by
  have path := Phrase.path hpath
  cases check with
  | compared relation =>
      exact ⟨path, .something relation (.scalar (hvalue (by simp [pieces])))⟩
  | constant relation scalar =>
      have spelled : (Token.scalar scalar).Spelled scalar.chars := readable
      exact ⟨path, .something relation (.scalar (Layout.single spelled))⟩
  | size relation =>
      have zero : Phrase 1 ['0'] (.literal (.number .zero)) := .scalar (Layout.single spelled_zero)
      exact ⟨path.call rfl, .something relation (zero.mono (Nat.le_succ 1))⟩
  | day relation =>
      exact ⟨path.call rfl, .something relation ((Phrase.scalar (hvalue (by simp [pieces]))).call rfl)⟩
  | matching function negated =>
      have arity : function.arity = 2 := readable
      have lowered : ∀ {text expr}, Phrase 1 text expr →
          Phrase 2 (callText .lower text) (.call .lower [expr]) := fun phrase => phrase.call rfl
      have called := (lowered path).callTwo arity
        (lowered (.scalar (hvalue (by cases negated <;> simp [pieces]))))
      cases negated with
      | true => exact ⟨called.not, .nothing⟩
      | false => exact ⟨called, .nothing⟩

/-- With fewer levels than a question takes, its text is refused, whatever its field and its value are. -/
theorem deep (check : Check) (field written rest : List Char) (bound : Nat) :
    Deep bound check.levels (check.reachedText field written ++ rest) := by
  have called : ∀ (function : Function) (tail : List Char),
      Deep bound 2 (function.name.toList ++ '(' :: (pathText field ++ tail)) :=
    fun function tail => Deep.call (by decide) (by decide) (deep_one bound _)
  cases check with
  | compared relation => exact deep_one bound _
  | constant relation scalar => exact deep_one bound _
  | size relation =>
      have h := called .len (')' :: rest)
      simpa [levels, reachedText, callText] using h
  | day relation =>
      have h := called .date (')' :: rest)
      simpa [levels, reachedText, callText] using h
  | matching function negated =>
      have lowered := called .lower (')' :: ',' :: ' ' :: (callText .lower written ++ ')' :: rest))
      have matched : Deep bound 3 (function.name.toList ++ '(' :: 'l' :: (['o', 'w', 'e', 'r'] ++
          '(' :: (pathText field ++ ')' :: ',' :: ' ' :: (callText .lower written ++ ')' :: rest)))) :=
        Deep.call (by decide) (by decide) lowered
      cases negated with
      | true => simpa [levels, reachedText, callText, Function.name] using matched.not
      | false => simpa [levels, reachedText, callText, Function.name] using matched

end Check

end FilterTree
