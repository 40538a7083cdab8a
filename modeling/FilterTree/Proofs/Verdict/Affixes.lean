/-
Module: FilterTree.Proofs.Verdict.Affixes
Layer: Proofs
Purpose: The comparisons that look for a text at the front, at the end or anywhere in a field. They compare the
  lower-case forms of the two texts, so a text that stands there as it is should always be found. It is found
  where it keeps its capital sigmas: one that ends a word only in the field, or only in the pattern, has two
  lower-case forms.
Imports: FilterTree.Proofs.Text.Lowercase, FilterTree.Proofs.Verdict.Comparisons,
  FilterTree.Proofs.Verdict.Functions
Main exports: Function.Places, Function.test_eq_true_iff, Operator.Affixes, Check.answer_affix,
  Predicate.affix_of_exact
-/
import FilterTree.Proofs.Text.Lowercase
import FilterTree.Proofs.Verdict.Comparisons
import FilterTree.Proofs.Verdict.Functions

namespace FilterTree

open Text (KeepsSigmas)

namespace Function

/-! ### Places -/

/-- Where a function looks for a text: what may stand before and behind it. -/
inductive Places : Function → List Char → List Char → Prop where
  | startsWith (after : List Char) : Places .startsWith [] after
  | endsWith (before : List Char) : Places .endsWith before []
  | contains (before after : List Char) : Places .contains before after

variable {function : Function} {before after : List Char}

/-- A function finds a text exactly where it stands at one of its places. -/
theorem test_eq_true_iff (function : Function) (subject pattern : List Char) :
    function.test subject pattern = true ↔
      ∃ before after, function.Places before after ∧ subject = before ++ (pattern ++ after) := by
  constructor
  · intro found
    cases function with
    | startsWith =>
        obtain ⟨after, rfl⟩ := (Text.startsWith_iff subject pattern).mp found
        exact ⟨[], after, .startsWith after, rfl⟩
    | endsWith =>
        obtain ⟨before, rfl⟩ := (Text.endsWith_iff subject pattern).mp found
        exact ⟨before, [], .endsWith before, by rw [List.append_nil]⟩
    | contains =>
        obtain ⟨before, after, rfl⟩ := (Text.contains_iff subject pattern).mp found
        exact ⟨before, after, .contains before after, List.append_assoc _ _ _⟩
    | lower | len | date => cases found
  · rintro ⟨before, after, places, rfl⟩
    cases places with
    | startsWith after => exact (Text.startsWith_iff _ pattern).mpr (List.prefix_append pattern after)
    | endsWith before =>
        rw [List.append_nil]
        exact (Text.endsWith_iff _ pattern).mpr (List.suffix_append before pattern)
    | contains before after =>
        exact (Text.contains_iff _ pattern).mpr ⟨before, after, List.append_assoc _ _ _⟩

/-- A text that keeps its sigmas at its place is found there in lower case. -/
theorem test_lower (places : function.Places before after) {pattern : List Char}
    (keeps : KeepsSigmas before pattern after) :
    function.test (Text.lower (before ++ (pattern ++ after))) (Text.lower pattern) = true := by
  rw [test_eq_true_iff]
  cases places with
  | startsWith after =>
      obtain ⟨rest, found⟩ := (Text.lower_prefix_iff pattern after).mpr keeps
      exact ⟨[], rest, .startsWith rest, found.symm⟩
  | endsWith before =>
      obtain ⟨front, found⟩ := (Text.lower_suffix_iff before pattern).mpr keeps
      refine ⟨front, [], .endsWith front, ?_⟩
      simp only [List.append_nil, found]
  | contains before after =>
      obtain ⟨front, rest, found⟩ := Text.lower_infix keeps
      refine ⟨front, rest, .contains front rest, ?_⟩
      rw [← found, List.append_assoc]

/-- At a place that can be one only, a text that does not keep its sigmas is not found in lower case. -/
theorem test_lower_eq_false (places : function.Places before after) (single : function ≠ .contains)
    {pattern : List Char} (turns : ¬ KeepsSigmas before pattern after) :
    function.test (Text.lower (before ++ (pattern ++ after))) (Text.lower pattern) = false := by
  apply Bool.eq_false_of_not_eq_true
  intro found
  obtain ⟨front, rest, stands, split⟩ := (test_eq_true_iff function _ _).mp found
  cases places with
  | startsWith after =>
      cases stands
      exact turns ((Text.lower_prefix_iff pattern after).mp ⟨rest, split.symm⟩)
  | endsWith before =>
      cases stands
      simp only [List.append_nil] at split
      exact turns ((Text.lower_suffix_iff before pattern).mp ⟨front, split.symm⟩)
  | contains before after => exact single rfl

end Function

/-! ### Comparisons -/

/-- The operators that look for a text, each with its negation and the function that they call. -/
inductive Operator.Affixes : Operator → Operator → Function → Prop where
  | startsWith : Affixes .startsWith .notStartsWith .startsWith
  | endsWith : Affixes .endsWith .notEndsWith .endsWith
  | contains : Affixes .contains .notContains .contains

/-- They ask for a match and for the opposite. -/
theorem Operator.Affixes.check_eq {positive negative : Operator} {function : Function}
    (affixes : Operator.Affixes positive negative function) :
    positive.check = .matching function false ∧ negative.check = .matching function true := by
  cases affixes <;> exact ⟨rfl, rfl⟩

/-- Two texts match when the function finds the one in the other in lower case. -/
theorem Check.answer_affix {function : Function} {before after : List Char}
    (places : function.Places before after) (negated : Bool) (subject pattern : String) :
    (Check.matching function negated).answer (.text pattern) (.text subject) =
      .ok (function.test (Text.lower subject.toList) (Text.lower pattern.toList) != negated) := by
  have applied : function.apply [.text (String.ofList (Text.lower subject.toList)),
      .text (String.ofList (Text.lower pattern.toList))] =
      .ok (.bool (function.test (Text.lower subject.toList) (Text.lower pattern.toList))) := by
    cases places <;> simp [Function.apply, Function.match?]
  rw [answer, Function.lower_text, Operand.ofScalar, Function.lower_text, Predicate.bind_of_ok rfl,
    Predicate.bind_of_ok rfl, Predicate.bind_of_ok applied, Operand.isTrue_bool]
  cases negated <;> simp

namespace Predicate

/-- Where a comparison that looks for a text is never stricter than an exact one. Let the field be a path that
    leads to a text with the pattern at a place where the operator looks. If each capital sigma of the pattern
    ends a word in the field exactly where it ends one in the pattern alone, then the operator matches and its
    negation does not. Else, at the front and at the end of the field, it is the other way around. -/
theorem affix_of_exact {positive negative : Operator} {function : Function}
    (affixes : Operator.Affixes positive negative function) {field : String} (path : IsPath field.toList)
    {before after : List Char} (places : function.Places before after) (pattern : String) (own other : Label) :
    let comparison : Comparison := ⟨field, positive, .text pattern⟩
    ∃ expr negated, parse (text [.comparison own comparison]) = .ok expr ∧
      parse (text [.comparison other ⟨field, negative, .text pattern⟩]) = .ok negated ∧
      ∀ (record last : Value) (subject : String), record.Leads comparison.steps last →
        last.untagged = .text subject → subject.toList = before ++ (pattern.toList ++ after) →
        (KeepsSigmas before pattern.toList after →
          expr.verdict record = .ok true ∧ negated.verdict record = .ok false) ∧
        (function ≠ .contains → ¬ KeepsSigmas before pattern.toList after →
          expr.verdict record = .ok false ∧ negated.verdict record = .ok true) := by
  intro comparison
  have clean : ∀ operator, Comparison.Clean ⟨field, operator, .text pattern⟩ :=
    fun operator => ⟨path, fun _ _ h => nomatch h⟩
  refine ⟨_, _, parse_single (clean positive), parse_single (clean negative), ?_⟩
  intro record last subject leads isText stands
  have reached : record.resolve comparison.steps = .text subject := by
    rw [Value.resolve_of_leads leads, Operand.ofValue_of_text last isText]
  have answers : ∀ negated, ((Check.matching function negated).expr comparison.steps (.text pattern)).verdict record =
      .ok (function.test (Text.lower (before ++ (pattern.toList ++ after))) (Text.lower pattern.toList) != negated) := by
    intro negated
    rw [Check.verdict_expr, reached, Check.answer_affix places, stands]
  have verdicts : ∀ found,
      function.test (Text.lower (before ++ (pattern.toList ++ after))) (Text.lower pattern.toList) = found →
      (positive.check.expr comparison.steps (.text pattern)).verdict record = .ok found ∧
        (negative.check.expr comparison.steps (.text pattern)).verdict record = .ok (!found) := by
    rintro found rfl
    rw [affixes.check_eq.1, affixes.check_eq.2, answers, answers]
    simp
  exact ⟨fun keeps => verdicts true (Function.test_lower places keeps),
    fun single turns => verdicts false (Function.test_lower_eq_false places single turns)⟩

/-- A sigma in front of a space ends its word in the field as in the pattern; one in front of a letter ends it in
    the pattern only. -/
theorem affix_of_exact_sigma :
    let comparison : Comparison := ⟨"name", .startsWith, .text "ΑΣ"⟩
    let named : String → Value := fun name => .map [(.text "name", .text name)]
    ∃ expr negated, parse (text [.comparison ⟨"a", none⟩ comparison]) = .ok expr ∧
      parse (text [.comparison ⟨"b", none⟩ ⟨"name", .notStartsWith, .text "ΑΣ"⟩]) = .ok negated ∧
      (expr.verdict (named "ΑΣ Α") = .ok true ∧ negated.verdict (named "ΑΣ Α") = .ok false) ∧
      expr.verdict (named "ΑΣΑ") = .ok false ∧ negated.verdict (named "ΑΣΑ") = .ok true := by
  intro comparison named
  have path : IsPath ['n', 'a', 'm', 'e'] := .last (by decide)
  have leads : ∀ name, (named name).Leads ["name"] (.text name) := fun name => .step (.entry rfl rfl) (.here _)
  have keeps : KeepsSigmas [] "ΑΣ".toList [' ', 'Α'] := (Text.lowerBetween_eq_iff _ _ _).mp (by decide +kernel)
  have turns : ¬ KeepsSigmas [] "ΑΣ".toList ['Α'] :=
    fun kept => absurd ((Text.lowerBetween_eq_iff _ _ _).mpr kept) (by decide +kernel)
  obtain ⟨expr, negated, hexpr, hnegated, spaced⟩ :=
    @affix_of_exact _ _ _ .startsWith "name" path _ _ (.startsWith [' ', 'Α']) "ΑΣ" ⟨"a", none⟩ ⟨"b", none⟩
  obtain ⟨expr', negated', hexpr', hnegated', lettered⟩ :=
    @affix_of_exact _ _ _ .startsWith "name" path _ _ (.startsWith ['Α']) "ΑΣ" ⟨"a", none⟩ ⟨"b", none⟩
  rw [hexpr] at hexpr'
  rw [hnegated] at hnegated'
  cases hexpr'
  cases hnegated'
  exact ⟨expr, negated, hexpr, hnegated, (spaced _ _ _ (leads "ΑΣ Α") rfl rfl).1 keeps,
    (lettered _ _ _ (leads "ΑΣΑ") rfl rfl).2 (by decide) turns⟩

/-- A name may begin with a text, end with one and contain one, while the operators find none of them. -/
theorem affix_misses_sigma :
    let named : String → Value := fun name => .map [(.text "name", .text name)]
    let misses : Operator → String → String → Prop := fun operator pattern name =>
      ∃ expr, parse (text [.comparison ⟨"c", none⟩ ⟨"name", operator, .text pattern⟩]) = .ok expr ∧
        expr.verdict (named name) = .ok false
    (Text.startsWith "ΑΣΑ".toList "ΑΣ".toList = true ∧ misses .startsWith "ΑΣ" "ΑΣΑ") ∧
      (Text.endsWith "ΟΔΟΣ".toList "Σ".toList = true ∧ misses .endsWith "Σ" "ΟΔΟΣ") ∧
      (Text.contains "ΟΔΟΣ".toList "Σ".toList = true ∧ misses .contains "Σ" "ΟΔΟΣ") := by
  intro named misses
  have path : IsPath "name".toList := (.last (by decide) : IsPath ['n', 'a', 'm', 'e'])
  have missed : ∀ {operator function before after}, operator.check = .matching function false →
      function.Places before after → ∀ pattern name : String,
      function.test (Text.lower name.toList) (Text.lower pattern.toList) = false → misses operator pattern name := by
    intro operator function before after asks places pattern name untrue
    have leads : (named name).Leads ["name"] (.text name) := .step (.entry rfl rfl) (.here _)
    have steps : (Text.splitOn '.' ("name".toList.filter (· != '?'))).map String.ofList = ["name"] := rfl
    have reached : (named name).resolve (Comparison.steps ⟨"name", operator, .text pattern⟩) = .text name := by
      rw [Comparison.steps, steps]
      exact Value.resolve_of_leads leads
    refine ⟨_, parse_single ⟨path, fun _ _ h => nomatch h⟩, ?_⟩
    rw [Check.verdict_expr, reached, asks, Check.answer_affix places, untrue]
    rfl
  refine ⟨⟨by decide, ?_⟩, ⟨by decide, ?_⟩, ⟨by decide, ?_⟩⟩
  · exact missed rfl (.startsWith []) _ _ (by decide +kernel)
  · exact missed rfl (.endsWith []) _ _ (by decide +kernel)
  · exact missed rfl (.contains [] []) _ _ (by decide +kernel)

end Predicate

end FilterTree
