/-
Module: FilterTree.Proofs.Grammar.Refusal
Layer: Proofs
Purpose: What the parser refuses. A refusal inside is a refusal of everything around it, and each negation,
  group and call takes one level more than what it encloses, so a text that needs more levels than are left
  is refused.
Imports: FilterTree.Proofs.Grammar.Completeness
Main exports: Refuses, Deep, Deep.not, Deep.call, refuses_group
-/
import FilterTree.Proofs.Grammar.Completeness

namespace FilterTree.Predicate

open Text (skipBlanks isBlankText)

/-- A parser gives back nothing on a text. -/
def Refuses (parser : Parser) (text : List Char) : Prop :=
  ∃ stop, parser text = .error stop

variable {bound levels : Nat} {text : List Char} {parser : Parser}

/-! ### Refusals go on -/

theorem Refuses.compareExpr (h : Refuses parser text) : Refuses (compareExpr parser) text := by
  obtain ⟨stop, hstop⟩ := h
  exact ⟨stop, bind_error hstop _⟩

theorem Refuses.andExpr (h : Refuses parser text) : Refuses (andExpr bound parser) text := by
  obtain ⟨stop, hstop⟩ := h.compareExpr
  exact ⟨stop, bind_error hstop _⟩

theorem Refuses.orExpr (h : Refuses parser text) : Refuses (orExpr bound parser) text := by
  obtain ⟨stop, hstop⟩ := @Refuses.andExpr bound text parser h
  exact ⟨stop, bind_error hstop _⟩

/-- Arguments are refused when the first of them is. -/
theorem Refuses.arguments (h : Refuses parser text) : ∃ stop, arguments parser bound text = .error stop := by
  cases bound with
  | zero => exact ⟨_, rfl⟩
  | succ bound =>
      obtain ⟨stop, hstop⟩ := h
      exact ⟨stop, bind_error hstop _⟩

/-! ### Unaries -/

theorem refuses_zero (bound : Nat) (text : List Char) : Refuses (unary bound 0) text :=
  ⟨_, rfl⟩

/-- Where a level is left, blanks in front make no difference. -/
theorem unary_blanks {blanks : List Char} (hb : isBlankText blanks = true) :
    unary bound (levels + 1) (blanks ++ text) = unary bound (levels + 1) text := by
  rw [unary, unary, Text.skipBlanks_append hb]

theorem Refuses.blanks {blanks : List Char} (hb : isBlankText blanks = true)
    (h : Refuses (unary bound levels) text) : Refuses (unary bound levels) (blanks ++ text) := by
  cases levels with
  | zero => exact refuses_zero bound _
  | succ levels =>
      obtain ⟨stop, hstop⟩ := h
      exact ⟨stop, by rw [unary_blanks hb, hstop]⟩

/-- A space in front of a text that is refused is no help. -/
theorem Refuses.space (h : Refuses (unary bound levels) text) : Refuses (unary bound levels) (' ' :: text) :=
  h.blanks Text.isBlankText_space

/-- A negation goes on with what it negates. -/
theorem unary_bang (bound levels : Nat) (text : List Char) : unary bound (levels + 1) ('!' :: text) =
    unary bound levels text >>= fun (operand, rest) => .ok (.not operand, rest) := by
  rw [unary, Text.skipBlanks_cons (by decide)]
  rfl

theorem refuses_not (h : Refuses (unary bound levels) text) :
    Refuses (unary bound (levels + 1)) ('!' :: text) := by
  obtain ⟨stop, hstop⟩ := h
  exact ⟨stop, by rw [unary_bang]; exact bind_error hstop _⟩

/-- A call goes on with its arguments, if there is something between its parentheses. -/
theorem unary_callText {function : Function} {c : Char} {rest : List Char} (solid : Text.isBlank c = false)
    (notClose : c ≠ ')') : unary bound (levels + 1) (function.name.toList ++ '(' :: c :: rest) =
      arguments (orExpr bound (unary bound levels)) bound (c :: rest) >>= fun (args, rest) =>
        if args.length = function.arity then .ok (.call function args, rest)
        else .error (.fault (.arity function args.length)) := by
  have hskip : skipBlanks (function.name.toList ++ '(' :: c :: rest) =
      function.name.toList ++ '(' :: c :: rest := by
    cases function <;> exact Text.skipBlanks_cons (by decide)
  have stops : Text.StopsAt Text.isNameChar ('(' :: c :: rest) := by
    simp only [Text.StopsAt, List.head?_cons, Option.mem_some_iff]
    rintro _ rfl
    decide
  have hopen : skipBlanks ('(' :: c :: rest) = '(' :: c :: rest := Text.skipBlanks_cons (by decide)
  have hargs : ∀ after, skipBlanks (c :: rest) ≠ ')' :: after := by
    intro after
    rw [Text.skipBlanks_cons solid]
    intro heq
    cases heq
    exact notClose rfl
  rw [unary_primary (.function function) rfl (by simp) hskip, primary_function function stops,
    call_open hopen hargs, Text.skipBlanks_cons solid]

theorem refuses_call {function : Function} {c : Char} {rest : List Char} (solid : Text.isBlank c = false)
    (notClose : c ≠ ')') (h : Refuses (unary bound levels) (c :: rest)) :
    Refuses (unary bound (levels + 1)) (function.name.toList ++ '(' :: c :: rest) := by
  obtain ⟨stop, hstop⟩ := h.orExpr.arguments
  exact ⟨stop, by rw [unary_callText solid notClose]; exact bind_error hstop _⟩

/-- A group goes on with what stands in it, up to its closing parenthesis. -/
theorem unary_open (bound levels : Nat) (text : List Char) : unary bound (levels + 1) ('(' :: text) =
    group (orExpr bound (unary bound levels)) text := by
  rw [unary, Text.skipBlanks_cons (by decide)]
  rfl

/-- A group is refused when what stands in it is, or when that does not end at a parenthesis. -/
theorem refuses_group
    (h : Refuses (orExpr bound (unary bound levels)) text ∨ ∃ expr last c rest,
      orExpr bound (unary bound levels) text = .ok (expr, last) ∧ skipBlanks last = c :: rest ∧ c ≠ ')') :
    Refuses (unary bound (levels + 1)) ('(' :: text) := by
  rcases h with ⟨stop, hstop⟩ | ⟨expr, last, c, rest, hread, hlast, notClose⟩
  · exact ⟨stop, by rw [unary_open]; exact bind_error hstop _⟩
  · refine ⟨.at .openGroup (c :: rest), ?_⟩
    rw [unary_open, group, bind_of_ok hread]
    simp only [hlast]
    split
    case h_1 heq =>
      cases heq
      exact absurd rfl notClose
    case h_2 => rfl

/-- Where nothing begins, there is no unary. -/
theorem refuses_mark {c : Char} (hc : c = '&' ∨ c = '|' ∨ c = ')') (text : List Char) :
    Refuses (unary bound levels) (c :: text) := by
  cases levels with
  | zero => exact refuses_zero bound _
  | succ levels => rcases hc with rfl | rfl | rfl <;> exact ⟨_, rfl⟩

theorem refuses_nil : Refuses (unary bound levels) [] := by
  cases levels with
  | zero => exact refuses_zero bound _
  | succ levels => exact ⟨_, rfl⟩

/-! ### Deep texts -/

/-- A text is refused with fewer than a number of levels. -/
def Deep (bound needed : Nat) (text : List Char) : Prop :=
  ∀ levels < needed, Refuses (unary bound levels) text

theorem deep_one (bound : Nat) (text : List Char) : Deep bound 1 text := by
  intro levels hlevels
  obtain rfl : levels = 0 := by omega
  exact refuses_zero bound text

theorem Deep.not {needed : Nat} (deep : Deep bound needed text) : Deep bound (needed + 1) ('!' :: text) := by
  intro levels hlevels
  cases levels with
  | zero => exact refuses_zero bound _
  | succ levels => exact refuses_not (deep levels (by omega))

theorem Deep.call {needed : Nat} {function : Function} {c : Char} {rest : List Char}
    (solid : Text.isBlank c = false) (notClose : c ≠ ')') (deep : Deep bound needed (c :: rest)) :
    Deep bound (needed + 1) (function.name.toList ++ '(' :: c :: rest) := by
  intro levels hlevels
  cases levels with
  | zero => exact refuses_zero bound _
  | succ levels => exact refuses_call solid notClose (deep levels (by omega))

end FilterTree.Predicate
