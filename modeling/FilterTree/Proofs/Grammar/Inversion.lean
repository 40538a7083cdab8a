/-
Module: FilterTree.Proofs.Grammar.Inversion
Layer: Proofs
Purpose: What an expression tells about the tokens that derive it. Where no parenthesis comes first, the tokens
  of a path, of a call, of a negation and of a comparison have one shape; a literal, and a call of one literal,
  stand between tokens that open and tokens that close. The text shows whether a parenthesis comes first.
Imports: FilterTree.Proofs.Grammar.Completeness
Main exports: Bare, Grammar.Disjunction.of_path, Grammar.Disjunction.of_call, Grammar.Disjunction.of_compare,
  Grammar.IsSingle, Grammar.Surrounded, Grammar.Unary.surrounded
-/
import FilterTree.Proofs.Grammar.Completeness

namespace FilterTree.Predicate

open Text (isBlankText)

/-- No opening parenthesis comes first. -/
def Bare (tokens : List Token) : Prop :=
  tokens.head? ≠ some .openParen

theorem Bare.of_append {first second : List Token} (bare : Bare (first ++ second)) : Bare first := by
  cases first with
  | nil => exact nofun
  | cons token first => exact bare

namespace Grammar

variable {levels : Nat} {tokens : List Token}

/-! ### Shapes -/

theorem Unary.of_path {names : List String} (bare : Bare tokens) (h : Unary levels tokens (.path names)) :
    tokens = [.path names] := by
  cases h with
  | primary primary =>
      cases primary with
      | group => exact absurd rfl bare
      | path => rfl

/-- A path that no parenthesis opens is its token. -/
theorem Disjunction.of_path {names : List String} (bare : Bare tokens)
    (h : Disjunction levels tokens (.path names)) : tokens = [.path names] := by
  cases h with
  | single conjunction =>
      cases conjunction with
      | single compared =>
          cases compared with
          | single unary => exact unary.of_path bare

theorem Unary.of_call {function : Function} {args : List Expr} (bare : Bare tokens)
    (h : Unary levels tokens (.call function args)) :
    ∃ inner below, tokens = .function function :: .openParen :: (inner ++ [.closeParen]) ∧
      Arguments below inner args := by
  cases h with
  | primary primary =>
      cases primary with
      | group => exact absurd rfl bare
      | call arguments => exact ⟨_, _, rfl, arguments⟩

/-- A call that no parenthesis opens is its name and its arguments in parentheses. -/
theorem Disjunction.of_call {function : Function} {args : List Expr} (bare : Bare tokens)
    (h : Disjunction levels tokens (.call function args)) :
    ∃ inner below, tokens = .function function :: .openParen :: (inner ++ [.closeParen]) ∧
      Arguments below inner args := by
  cases h with
  | single conjunction =>
      cases conjunction with
      | single compared =>
          cases compared with
          | single unary => exact unary.of_call bare

/-- A negation that no parenthesis opens is its mark and what it negates. -/
theorem Disjunction.of_not {expr : Expr} (bare : Bare tokens) (h : Disjunction levels tokens (.not expr)) :
    ∃ others below, tokens = .bang :: others ∧ Unary below others expr := by
  cases h with
  | single conjunction =>
      cases conjunction with
      | single compared =>
          cases compared with
          | single unary =>
              cases unary with
              | not inner => exact ⟨_, _, rfl, inner⟩
              | primary primary =>
                  cases primary with
                  | group => exact absurd rfl bare

/-- A comparison that no parenthesis opens is two unaries around its relation. -/
theorem Disjunction.of_compare {relation : Relation} {left right : Expr} (bare : Bare tokens)
    (h : Disjunction levels tokens (.compare relation left right)) :
    ∃ before after, tokens = before ++ .relation relation :: after ∧ Bare before ∧
      Unary levels before left ∧ Unary levels after right := by
  cases h with
  | single conjunction =>
      cases conjunction with
      | single compared =>
          cases compared with
          | single unary =>
              cases unary with
              | primary primary =>
                  cases primary with
                  | group => exact absurd rfl bare
          | related _ first second =>
              obtain ⟨token, others, rfl, -⟩ := first.exists_head
              exact ⟨_, _, rfl, bare, first, second⟩

theorem Arguments.of_one {arg : Expr} (h : Arguments levels tokens [arg]) : Disjunction levels tokens arg := by
  cases h with
  | single inner => exact inner
  | more _ rest => cases rest

theorem Arguments.of_two {first second : Expr} (h : Arguments levels tokens [first, second]) :
    ∃ before after, tokens = before ++ .comma :: after ∧ Disjunction levels before first ∧
      Disjunction levels after second := by
  cases h with
  | more inner rest => exact ⟨_, _, rfl, inner, rest.of_one⟩

/-! ### Literals between parentheses -/

/-- The expression is a literal, or a call of one literal. -/
def IsSingle (value : Scalar) (expr : Expr) : Prop :=
  expr = .literal value ∨ ∃ function, expr = .call function [.literal value]

/-- Tokens that open, then the literal, then closing parentheses. -/
def Surrounded (value : Scalar) (tokens : List Token) : Prop :=
  ∃ opening closing, tokens = opening ++ .scalar value :: closing ∧
    (∀ token ∈ opening, token = .openParen ∨ ∃ function, token = .function function) ∧
    ∀ token ∈ closing, token = .closeParen

/-- What is surrounded stays so in front of a closing parenthesis. -/
theorem Surrounded.closed {value : Scalar} (h : Surrounded value tokens) :
    Surrounded value (tokens ++ [.closeParen]) := by
  obtain ⟨opening, closing, rfl, opens, closes⟩ := h
  refine ⟨opening, closing ++ [.closeParen], by simp, opens, ?_⟩
  intro token hmem
  rcases List.mem_append.mp hmem with hmem | hmem
  · exact closes token hmem
  · exact List.mem_singleton.mp hmem

/-- A token that opens may come in front. -/
theorem Surrounded.opened {value : Scalar} {token : Token} (h : Surrounded value tokens)
    (opens : token = .openParen ∨ ∃ function, token = .function function) :
    Surrounded value (token :: tokens) := by
  obtain ⟨opening, closing, rfl, others, closes⟩ := h
  refine ⟨token :: opening, closing, rfl, ?_, closes⟩
  intro other hmem
  rcases List.mem_cons.mp hmem with rfl | hmem
  · exact opens
  · exact others other hmem

mutual

/-- The tokens of a literal, or of a call of one, surround it. -/
theorem Disjunction.surrounded {value : Scalar} : ∀ {levels : Nat} {tokens : List Token} {expr : Expr},
    Disjunction levels tokens expr → IsSingle value expr → Surrounded value tokens
  | _, _, _, .single (.single (.single unary)), isSingle => unary.surrounded isSingle
  | _, _, _, .single (.single (.related _ _ _)), isSingle => by
      rcases isSingle with h | ⟨function, h⟩ <;> cases h
  | _, _, _, .single (.join _ _), isSingle => by
      rcases isSingle with h | ⟨function, h⟩ <;> cases h
  | _, _, _, .join _ _, isSingle => by
      rcases isSingle with h | ⟨function, h⟩ <;> cases h

theorem Unary.surrounded {value : Scalar} : ∀ {levels : Nat} {tokens : List Token} {expr : Expr},
    Unary levels tokens expr → IsSingle value expr → Surrounded value tokens
  | _, _, _, .not _, isSingle => by
      rcases isSingle with h | ⟨function, h⟩ <;> cases h
  | _, _, _, .primary (.group inner), isSingle => (inner.surrounded isSingle).closed.opened (.inl rfl)
  | _, _, _, .primary (.scalar _), isSingle => by
      rcases isSingle with h | ⟨function, h⟩ <;> cases h
      exact ⟨[], [], rfl, by simp, by simp⟩
  | _, _, _, .primary (.path _), isSingle => by
      rcases isSingle with h | ⟨function, h⟩ <;> cases h
  | _, _, _, .primary (@Primary.call _ function _ _ (@Arguments.single _ _ arg inner) _), isSingle => by
      have isLiteral : IsSingle value arg := by
        rcases isSingle with h | ⟨other, h⟩ <;> cases h
        exact .inl rfl
      exact ((inner.surrounded isLiteral).closed.opened (.inl rfl)).opened (.inr ⟨function, rfl⟩)
  | _, _, _, .primary (.call (.more _ rest) _), isSingle => by
      rcases isSingle with h | ⟨other, h⟩ <;> cases h
      cases rest

end

end Grammar

/-! ### The front of a layout -/

/-- Where no blank comes first in the text, the first token does. -/
theorem Layout.front {token : Token} {tokens : List Token} {c : Char} {text : List Char}
    (h : Layout (token :: tokens) (c :: text)) (solid : Text.isBlank c = false) :
    ∃ spelling rest, token.Spelled spelling ∧ c :: text = spelling ++ rest ∧ Layout tokens rest := by
  generalize htext : c :: text = whole at h
  cases h with
  | @cons _ _ blanks spelling rest blank spelled others =>
      cases blanks with
      | nil => exact ⟨spelling, rest, spelled, rfl, others⟩
      | cons b blanks =>
          injection htext with hc
          subst hc
          rw [isBlankText, List.all_cons, solid] at blank
          cases blank

/-- A token with one spelling takes it off the front of its layout. -/
theorem Layout.behind {token : Token} {tokens : List Token} {c : Char} {spelling rest : List Char}
    (only : ∀ other, token.Spelled other → other = c :: spelling) (solid : Text.isBlank c = false)
    (h : Layout (token :: tokens) (c :: spelling ++ rest)) : Layout tokens rest := by
  obtain ⟨other, tail, spelled, htext, others⟩ := h.front solid
  rw [only other spelled] at htext
  have htail : rest = tail := @List.append_cancel_left _ (c :: spelling) _ _ htext
  rw [htail]
  exact others

/-- Where another character than a parenthesis comes first in the text, none comes first in its tokens. -/
theorem bare_of_layout {tokens : List Token} {c : Char} {rest : List Char} (h : Layout tokens (c :: rest))
    (solid : Text.isBlank c = false) (notOpen : c ≠ '(') : Bare tokens := by
  cases tokens with
  | nil => exact nofun
  | cons token tokens =>
      intro hhead
      rw [List.head?_cons, Option.some_inj] at hhead
      subst hhead
      obtain ⟨spelling, tail, spelled, htext, -⟩ := h.front solid
      cases spelled
      injection htext with hc
      exact notOpen hc

/-- Where the name of a function comes first in the text, no parenthesis does in its tokens. -/
theorem bare_of_function {tokens : List Token} {function : Function} {rest : List Char}
    (h : Layout tokens (function.name.toList ++ rest)) : Bare tokens := by
  cases function <;> exact bare_of_layout h (by decide) (by decide)

/-- The name of a function and its parenthesis come off together. -/
theorem Layout.behind_function {function : Function} {tokens : List Token} {rest : List Char}
    (h : Layout (.function function :: .openParen :: tokens) (function.name.toList ++ '(' :: rest)) :
    Layout tokens rest := by
  have opened : Layout (.openParen :: tokens) ('(' :: rest) := by
    cases function <;> exact h.behind (fun _ spelled => by cases spelled; rfl) (by decide)
  exact @Layout.behind _ _ '(' [] _ (fun _ spelled => by cases spelled; rfl) (by decide) opened

end FilterTree.Predicate
