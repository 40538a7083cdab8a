/-
Module: FilterTree.Proofs.Text.Lowercase
Layer: Proofs
Purpose: The lower-case form of a text that stands inside another one. It is as long there as it is alone, and
  only capital sigmas can differ: one that ends a word has a form of its own, and what ends a word alone may go
  on inside. A text begins or ends with another one in lower case exactly when the sigmas of the latter end a
  word in both places or in none.
Imports: Mathlib, FilterTree.Proofs.Grammar.Completeness, FilterTree.Text.Lowercase
Main exports: Text.EndsWord, Text.KeepsSigmas, Text.lower_around, Text.lowerBetween_eq_iff,
  Text.lower_prefix_iff, Text.lower_suffix_iff, Text.lower_infix
-/
import Mathlib
import FilterTree.Proofs.Grammar.Completeness
import FilterTree.Text.Lowercase

namespace FilterTree.Text

/-! ### Exact matches -/

/-- A text begins with its prefixes. -/
theorem startsWith_iff (text start : List Char) : startsWith text start = true ↔ start <+: text := by
  rw [startsWith, Option.isSome_iff_exists]
  constructor
  · rintro ⟨rest, h⟩
    exact ⟨rest, (Predicate.stripPrefix?_eq_some h).symm⟩
  · rintro ⟨rest, rfl⟩
    exact ⟨rest, Predicate.stripPrefix?_append start rest⟩

/-- A text ends with its suffixes. -/
theorem endsWith_iff (text tail : List Char) : endsWith text tail = true ↔ tail <:+ text := by
  rw [endsWith, startsWith_iff, List.reverse_prefix]

/-- A text contains its infixes. -/
theorem contains_iff (text piece : List Char) : contains text piece = true ↔ piece <:+: text := by
  induction text with
  | nil => rw [contains, List.isEmpty_iff, List.infix_nil]
  | cons c text ih => rw [contains, Bool.or_eq_true, startsWith_iff, ih, List.infix_cons_iff]

/-! ### Words -/

/-- A letter between two texts ends a word: a cased character goes before it and none follows, where the
    case-ignorable ones in between do not count. -/
def EndsWord (before after : List Char) : Prop :=
  leadsCased before.reverse = true ∧ leadsCased after = false

/-- Every capital sigma of a text ends a word between two others exactly where it ends one alone. -/
def KeepsSigmas (before text after : List Char) : Prop :=
  ∀ front rest, text = front ++ 'Σ' :: rest →
    (EndsWord (before ++ front) (rest ++ after) ↔ EndsWord front rest)

/-- The lower-case form of a capital sigma between two texts. -/
def sigma (before after : List Char) : Char :=
  if leadsCased before.reverse && !leadsCased after then 'ς' else 'σ'

/-- The form of a sigma tells whether it ends a word. -/
theorem sigma_eq_iff (before after before' after' : List Char) :
    sigma before after = sigma before' after' ↔ (EndsWord before after ↔ EndsWord before' after') := by
  have different : ('ς' : Char) ≠ 'σ' := by decide
  rw [sigma, sigma, EndsWord, EndsWord]
  cases leadsCased before.reverse <;> cases leadsCased after <;> cases leadsCased before'.reverse <;>
    cases leadsCased after' <;> simp [different, different.symm]

/-! ### Lower case between two texts -/

/-- The lower-case form of one character between two texts. -/
def lowerCharBetween (before : List Char) (c : Char) (after : List Char) : List Char :=
  if c = 'Σ' then [sigma before after] else lowerChar c

/-- The lower-case form of a text between two others. -/
def lowerBetween (before : List Char) : List Char → List Char → List Char
  | [], _ => []
  | c :: text, after => lowerCharBetween before c (text ++ after) ++ lowerBetween (before ++ [c]) text after

/-- The characters of a text become lower case one by one, each between those before and behind it. -/
theorem lowerAfter_cons (before : List Char) (c : Char) (rest : List Char) :
    lowerAfter before.reverse (c :: rest) =
      lowerCharBetween before c rest ++ lowerAfter (before ++ [c]).reverse rest := by
  rw [lowerAfter, lowerCharBetween, sigma, List.reverse_append, List.reverse_singleton, List.singleton_append]

/-- Lower case goes over a text that is cut anywhere. -/
theorem lowerAfter_append (before text after : List Char) :
    lowerAfter before.reverse (text ++ after) =
      lowerBetween before text after ++ lowerAfter (before ++ text).reverse after := by
  induction text generalizing before with
  | nil => rw [List.nil_append, lowerBetween, List.nil_append, List.append_nil]
  | cons c text ih =>
      rw [List.cons_append, lowerAfter_cons, ih, lowerBetween, List.append_assoc, List.append_assoc,
        List.singleton_append]

/-- A text alone stands between nothing and nothing. -/
theorem lower_eq_lowerBetween (text : List Char) : lower text = lowerBetween [] text [] := by
  have whole := lowerAfter_append [] text []
  rw [List.append_nil, lowerAfter, List.append_nil] at whole
  exact whole

/-- The three parts of a text become lower case each between the other two. -/
theorem lower_around (before text after : List Char) : lower (before ++ (text ++ after)) =
    lowerBetween [] before (text ++ after) ++
      (lowerBetween before text after ++ lowerBetween (before ++ text) after []) := by
  have last := lowerAfter_append (before ++ text) after []
  rw [List.append_nil, lowerAfter, List.append_nil] at last
  have first : lower (before ++ (text ++ after)) =
      lowerBetween [] before (text ++ after) ++ lowerAfter before.reverse (text ++ after) :=
    lowerAfter_append [] before (text ++ after)
  rw [first, lowerAfter_append, last]

/-- What stands around a character does not change the length of its lower-case form. -/
theorem length_lowerCharBetween (c : Char) (before after before' after' : List Char) :
    (lowerCharBetween before c after).length = (lowerCharBetween before' c after').length := by
  rw [lowerCharBetween, lowerCharBetween]
  by_cases hsigma : c = 'Σ'
  · rw [if_pos hsigma, if_pos hsigma]
    rfl
  · rw [if_neg hsigma, if_neg hsigma]

/-- Nor that of a text. -/
theorem length_lowerBetween (text before after before' after' : List Char) :
    (lowerBetween before text after).length = (lowerBetween before' text after').length := by
  induction text generalizing before before' with
  | nil => rfl
  | cons c text ih =>
      rw [lowerBetween, lowerBetween, List.length_append, List.length_append,
        length_lowerCharBetween c before (text ++ after) before' (text ++ after'),
        ih (before ++ [c]) (before' ++ [c])]

/-- Two places give a character one lower-case form, unless it is a sigma that ends a word in one of them only. -/
theorem lowerCharBetween_eq_iff (c : Char) (before after before' after' : List Char) :
    lowerCharBetween before c after = lowerCharBetween before' c after' ↔
      (c = 'Σ' → (EndsWord before after ↔ EndsWord before' after')) := by
  rw [lowerCharBetween, lowerCharBetween]
  by_cases hsigma : c = 'Σ'
  · rw [if_pos hsigma, if_pos hsigma, List.cons.injEq, sigma_eq_iff]
    simp [hsigma]
  · simp [hsigma]

/-- Two places give a text one lower-case form when each of its sigmas ends a word in both or in none. -/
theorem lowerBetween_eq_lowerBetween_iff (text before after before' after' : List Char) :
    lowerBetween before text after = lowerBetween before' text after' ↔
      ∀ front rest, text = front ++ 'Σ' :: rest →
        (EndsWord (before ++ front) (rest ++ after) ↔ EndsWord (before' ++ front) (rest ++ after')) := by
  induction text generalizing before before' with
  | nil => simp [lowerBetween]
  | cons c text ih =>
      have heads := length_lowerCharBetween c before (text ++ after) before' (text ++ after')
      rw [lowerBetween, lowerBetween, List.append_eq_append_iff_of_size_eq_left heads, lowerCharBetween_eq_iff, ih]
      constructor
      · rintro ⟨first, others⟩ front rest split
        cases front with
        | nil =>
            cases split
            rw [List.append_nil, List.append_nil]
            exact first rfl
        | cons d front =>
            cases split
            have later := others front rest rfl
            rwa [List.append_assoc, List.append_assoc, List.singleton_append] at later
      · intro each
        constructor
        · rintro rfl
          have first := each [] text rfl
          rwa [List.append_nil, List.append_nil] at first
        · rintro front rest rfl
          have later := each (c :: front) rest rfl
          rwa [List.append_assoc, List.append_assoc, List.singleton_append]

/-- Between two others, a text has the lower-case form that it has alone when it keeps its sigmas. -/
theorem lowerBetween_eq_iff (before text after : List Char) :
    lowerBetween before text after = lower text ↔ KeepsSigmas before text after := by
  rw [lower_eq_lowerBetween, lowerBetween_eq_lowerBetween_iff]
  simp only [KeepsSigmas, List.nil_append, List.append_nil]

/-! ### Lower case and exact matches -/

/-- In lower case, a text begins with what it begins with as it is exactly when that keeps its sigmas. -/
theorem lower_prefix_iff (start after : List Char) :
    lower start <+: lower (start ++ after) ↔ KeepsSigmas [] start after := by
  have whole : lower (start ++ after) = lowerBetween [] start after ++ lowerBetween start after [] :=
    lower_around [] start after
  have length : (lower start).length = (lowerBetween [] start after).length := by
    rw [lower_eq_lowerBetween]
    exact length_lowerBetween start [] [] [] after
  rw [whole, ← lowerBetween_eq_iff]
  constructor
  · intro starts
    have inside := List.prefix_of_prefix_length_le starts (List.prefix_append _ _) (Nat.le_of_eq length)
    exact (inside.eq_of_length length).symm
  · intro same
    rw [same]
    exact List.prefix_append _ _

/-- In lower case, a text ends with what it ends with as it is exactly when that keeps its sigmas. -/
theorem lower_suffix_iff (before tail : List Char) :
    lower tail <:+ lower (before ++ tail) ↔ KeepsSigmas before tail [] := by
  have whole : lower (before ++ tail) = lowerBetween [] before tail ++ lowerBetween before tail [] := by
    have parts := lower_around before tail []
    rwa [List.append_nil, lowerBetween, List.append_nil] at parts
  have length : (lower tail).length = (lowerBetween before tail []).length := by
    rw [lower_eq_lowerBetween]
    exact length_lowerBetween tail [] [] before []
  rw [whole, ← lowerBetween_eq_iff]
  constructor
  · intro ends
    have inside := List.suffix_of_suffix_length_le ends (List.suffix_append _ _) (Nat.le_of_eq length)
    exact (inside.eq_of_length length).symm
  · intro same
    rw [same]
    exact List.suffix_append _ _

/-- In lower case, a text contains what it contains as it is and keeps its sigmas there. -/
theorem lower_infix {before piece after : List Char} (keeps : KeepsSigmas before piece after) :
    lower piece <:+: lower (before ++ (piece ++ after)) := by
  rw [lower_around, (lowerBetween_eq_iff before piece after).mpr keeps]
  exact ⟨_, _, List.append_assoc _ _ _⟩

end FilterTree.Text
