/-
Module: FilterTree.Proofs.Tree.Fields
Layer: Proofs
Purpose: What the text of a field can do to the predicate of its comparison. It is put into the template as it
  is. Where it is a path, with or without blanks behind it, the predicate is the question about that path; no
  other field leaves the question as it is, and every operator has fields that add a connective to it.
Imports: FilterTree.Proofs.Grammar.Surroundings, FilterTree.Proofs.Tree.RoundTrip, FilterTree.Predicate.Eval
Main exports: Check.sentence, Check.namesPath, Predicate.exists_field_either, Predicate.field_keeps_question
-/
import FilterTree.Proofs.Grammar.Surroundings
import FilterTree.Proofs.Tree.RoundTrip
import FilterTree.Predicate.Eval

namespace FilterTree

open Predicate
open Text (isBlankText)

namespace Check

/-! ### Fields that name a path -/

/-- With a field that names a path, the text of a question derives the question about that path. -/
theorem sentence {check : Check} {names : List String} {value : Scalar} {field written : List Char}
    (readable : check.Readable) (hvalue : .value ∈ check.pieces → Layout [.scalar value] written)
    (named : NamesPath names field) :
    ∃ tokens, Layout tokens (check.pieces.flatMap (Piece.fill field written)) ∧
      Grammar.Disjunction maxLevels tokens (check.expr names value) := by
  obtain ⟨path, blanks, rfl, joined, blank⟩ := named
  have hpath : Layout [.path names] (pathText (path ++ blanks)) :=
    (Layout.single (.path joined)).append (.nil blank)
  obtain ⟨⟨tokens, layout, derivation⟩, opposes⟩ := phrases readable hpath hvalue
  rw [fill_pieces]
  rw [← Term.expr_ofExpr (check.expr names value)]
  generalize Term.ofExpr (check.expr names value) = term at derivation opposes ⊢
  generalize check.opposedText written = opposed at opposes ⊢
  obtain ⟨reached, compared⟩ := term
  have first := derivation (maxLevels - check.levels)
  rw [Nat.sub_add_cancel check.levels_le] at first
  cases opposes with
  | nothing =>
      rw [behind, List.append_nil]
      exact ⟨tokens, layout, Phrase.disjunction first⟩
  | something relation phrase =>
      obtain ⟨others, otherLayout, otherDerivation⟩ := phrase
      have second := otherDerivation (maxLevels - check.levels)
      rw [Nat.sub_add_cancel check.levels_le] at second
      refine ⟨tokens ++ .relation relation :: others, ?_, .single (.single (.related relation first second))⟩
      have spaced := Layout.blanks_append Text.isBlankText_space ((Layout.single (.relation relation)).append
        (Layout.blanks_append Text.isBlankText_space otherLayout))
      exact layout.append spaced

/-! ### Fields that do not -/

variable {names : List String} {tokens : List Token} {levels : Nat} {value : Scalar} {field right : List Char}

/-- A relation is spelled without a space and without a parenthesis, and begins with no question mark. -/
theorem relation_apart {relation : Relation} {spelling : List Char}
    (spelled : (Token.relation relation).Spelled spelling) :
    (' ' ∉ spelling ∧ ')' ∉ spelling) ∧ ∃ c others, spelling = c :: others ∧ c ≠ '?' := by
  cases spelled with
  | relation => cases relation <;> exact ⟨by decide, _, _, rfl, by decide⟩
  | longEq => exact ⟨by decide, _, _, rfl, by decide⟩
  | longNe => exact ⟨by decide, _, _, rfl, by decide⟩

/-- The first character of a relation may not stand in front of a literal that is surrounded. -/
theorem exists_stop (relation : Relation) : ∃ stop ∈ relation.symbol.toList, mayOpen stop = false := by
  cases relation <;> exact ⟨_, List.mem_cons_self, by decide⟩

/-- Where a path and a literal are compared, the field names the path. -/
theorem namesPath_of_sides {relation : Relation}
    (layout : Layout tokens (pathText field ++ behind (some (relation, right))))
    (derivation : Grammar.Disjunction levels tokens (.compare relation (.path names) (.literal value)))
    (ends : EndsInLiteral (' ' :: right)) : NamesPath names field := by
  have bare : Bare tokens := bare_of_layout layout (by decide) (by decide)
  obtain ⟨before, after, rfl, bareBefore, first, second⟩ := derivation.of_compare bare
  obtain rfl := first.of_path bareBefore
  have pathLayout : Layout (.path names :: .relation relation :: after) (['r', 'e', 'c', 'o', 'r', 'd'] ++
      ('?' :: '.' :: (field ++ ' ' :: (relation.symbol.toList ++ ' ' :: right)))) := layout
  rcases pathLayout.path_apart (by decide) (by decide) (by decide) fun spelling spelled =>
      ⟨(relation_apart spelled).1.1, (relation_apart spelled).2⟩ with named | ⟨between, others⟩
  · exact named
  · obtain ⟨stop, hstop, notOpen⟩ := exists_stop relation
    have surrounded := second.surrounded (.inl rfl)
    have others : Layout after ((between ++ ' ' :: relation.symbol.toList) ++ ' ' :: right) := by
      simpa using others
    exact (surrounded.no_room ends others (by simp [hstop]) notOpen).elim

/-- The tokens of a call of a path, off a text in which the path stands first between the parentheses. -/
theorem called_path {function : Function} {inner more : List Token} {text : List Char}
    (arguments : Grammar.Arguments levels inner [.path names])
    (layout : Layout ((.function function :: .openParen :: (inner ++ [.closeParen])) ++ more)
      (function.name.toList ++ '(' :: pathText text)) :
    Layout (.path names :: .closeParen :: more) (pathText text) := by
  rw [List.cons_append, List.cons_append, List.append_assoc, List.singleton_append] at layout
  have inside := layout.behind_function
  have bare : Bare inner := (bare_of_layout inside (by decide) (by decide)).of_append
  obtain rfl := arguments.of_one.of_path bare
  exact inside

/-- Where a call of a path is compared with a literal or a call of one, the field names the path. -/
theorem namesPath_of_called {function : Function} {relation : Relation} {other : Expr}
    (layout : Layout tokens (callText function (pathText field) ++ behind (some (relation, right))))
    (derivation : Grammar.Disjunction levels tokens (.compare relation (.call function [.path names]) other))
    (single : Grammar.IsSingle value other) (ends : EndsInLiteral (' ' :: right)) : NamesPath names field := by
  have htext : callText function (pathText field) ++ behind (some (relation, right)) =
      function.name.toList ++
        '(' :: pathText (field ++ ')' :: ' ' :: (relation.symbol.toList ++ ' ' :: right)) := by
    simp [callText, pathText, behind]
  rw [htext] at layout
  obtain ⟨before, after, rfl, bareBefore, first, second⟩ := derivation.of_compare (bare_of_function layout)
  obtain ⟨inner, below, rfl, arguments⟩ := first.of_call bareBefore
  rcases (called_path arguments layout).path_closed fun spelling spelled => (relation_apart spelled).1.2 with
    named | ⟨between, others⟩
  · exact named
  · have others : Layout after ((between ++ ')' :: ' ' :: relation.symbol.toList) ++ ' ' :: right) := by
      simpa using others
    exact ((second.surrounded single).no_room ends others (by simp) (by decide : mayOpen ')' = false)).elim

/-- Where a match is of a call of a path and a call of a literal, the field names the path. -/
theorem namesPath_of_matched {function : Function} {written : List Char} {scalar : Scalar}
    (layout : Layout tokens (function.name.toList ++
      '(' :: (callText .lower (pathText field) ++ (',' :: ' ' :: (callText .lower written ++ [')'])))))
    (derivation : Grammar.Disjunction levels tokens
      (.call function [.call .lower [.path names], .call .lower [.literal value]]))
    (spelled : (Token.scalar scalar).Spelled written) : NamesPath names field := by
  have htext : callText .lower (pathText field) ++ (',' :: ' ' :: (callText .lower written ++ [')'])) =
      Function.lower.name.toList ++
        '(' :: pathText (field ++ ')' :: ',' :: ' ' :: (callText .lower written ++ [')'])) := by
    simp [callText, pathText]
  rw [htext] at layout
  obtain ⟨inner, below, rfl, arguments⟩ := derivation.of_call (bare_of_function layout)
  obtain ⟨before, after, rfl, first, second⟩ := arguments.of_two
  have inside := layout.behind_function
  rw [List.append_assoc] at inside
  obtain ⟨lowered, lowest, rfl, lowerArguments⟩ := first.of_call (bare_of_function inside).of_append
  have comma : ∀ spelling, Token.comma.Spelled spelling → ')' ∉ spelling := by
    rintro _ ⟨⟩
    decide
  rcases (called_path lowerArguments inside).path_closed comma with named | ⟨between, others⟩
  · exact named
  · have surrounded := (second.surrounded (.inr ⟨.lower, rfl⟩)).closed
    have ends : EndsInLiteral (',' :: ' ' :: (callText .lower written ++ [')'])) :=
      ⟨',' :: ' ' :: Function.lower.name.toList, '(', scalar, written, [')', ')'], by simp [callText], .inr rfl,
        spelled, by simp⟩
    have others : Layout (after ++ [.closeParen])
        ((between ++ [')']) ++ (',' :: ' ' :: (callText .lower written ++ [')']))) := by
      simpa using others
    exact (surrounded.no_room ends others (by simp) (by decide : mayOpen ')' = false)).elim

/-- Only with a field that names a path does the text of a question derive the question about that path. -/
theorem namesPath {check : Check} {written : List Char} (readable : check.Readable)
    (hvalue : .value ∈ check.pieces → (Token.scalar value).Spelled written)
    (layout : Layout tokens (check.pieces.flatMap (Piece.fill field written)))
    (derivation : Grammar.Disjunction levels tokens (check.expr names value)) : NamesPath names field := by
  have spaced : ∀ {scalar : Scalar} {right : List Char}, (Token.scalar scalar).Spelled right →
      EndsInLiteral (' ' :: right) := fun spelled =>
    ⟨[], ' ', _, _, [], by simp, .inl rfl, spelled, by simp⟩
  rw [fill_pieces] at layout
  cases check with
  | compared relation => exact namesPath_of_sides layout derivation (spaced (hvalue (by simp [pieces])))
  | constant relation scalar =>
      have spelled : (Token.scalar scalar).Spelled scalar.chars := readable
      exact namesPath_of_sides layout derivation (spaced spelled)
  | size relation => exact namesPath_of_called layout derivation (.inl rfl) (spaced spelled_zero)
  | day relation =>
      have ends : EndsInLiteral (' ' :: callText .date written) :=
        ⟨' ' :: Function.date.name.toList, '(', value, written, [')'], by simp [callText], .inr rfl,
          hvalue (by simp [pieces]), by simp⟩
      exact namesPath_of_called layout derivation (.inr ⟨.date, rfl⟩) ends
  | matching function negated =>
      have spelled := hvalue (by cases negated <;> simp [pieces])
      rw [opposedText, behind, List.append_nil] at layout
      cases negated with
      | false => exact namesPath_of_matched layout derivation spelled
      | true =>
          have bare : Bare tokens := bare_of_layout layout (by decide) (by decide)
          obtain ⟨others, below, rfl, negated⟩ := derivation.of_not bare
          have inside := @Layout.behind _ _ '!' [] _ (fun _ spelled => by cases spelled; rfl) (by decide) layout
          exact namesPath_of_matched inside (Phrase.disjunction negated) spelled

/-! ### Fields that add a connective -/

/-- The place of the field stands once in a template, behind fixed text. -/
theorem exists_pieces (check : Check) :
    ∃ start rest, check.pieces = .fixed start :: .field :: rest ∧ Piece.field ∉ rest := by
  cases check <;> exact ⟨_, _, rfl, by simp⟩

/-- The field stands in the text of a question between two texts that do not depend on it. -/
theorem exists_around (check : Check) (written : List Char) : ∃ front back, ∀ field,
    check.pieces.flatMap (Piece.fill field written) = front ++ (field ++ back) := by
  obtain ⟨start, rest, hpieces, notMem⟩ := check.exists_pieces
  refine ⟨start.toList, rest.flatMap (Piece.fill [] written), fun field => ?_⟩
  have same : rest.flatMap (Piece.fill field written) = rest.flatMap (Piece.fill [] written) := by
    rw [List.flatMap_def, List.flatMap_def]
    refine congrArg List.flatten (List.map_congr_left fun piece hmem => ?_)
    cases piece with
    | field => exact absurd hmem notMem
    | _ => rfl
  rw [hpieces, List.flatMap_cons, List.flatMap_cons, same]
  rfl

end Check

namespace Predicate

/-- The text of one comparison is the template of its operator, filled in. -/
theorem text_comparison (label : Label) (comparison : Comparison) :
    (text [.comparison label comparison]).toList = comparison.predicate := by
  simp [text, Spelling.writeAll, Spelling.writeAfter, Spelling.write, spelling]

/-- For any clean comparison and any other path there is a field with which the comparison reads as two, one of
    either path, with an `||` between them. -/
theorem exists_field_either {comparison : Comparison} (clean : comparison.Clean) {path : String}
    (hpath : IsPath path.toList) : ∃ field, ∀ label,
      parse (text [.comparison label { comparison with field := field }]) =
        .ok (.or (comparison.operator.check.expr comparison.steps comparison.value)
          (comparison.operator.check.expr { comparison with field := path }.steps comparison.value)) := by
  obtain ⟨front, back, around⟩ := comparison.operator.check.exists_around comparison.value.literal
  let field : String :=
    String.ofList (comparison.field.toList ++ back ++ (' ' :: '|' :: '|' :: ' ' :: (front ++ path.toList)))
  refine ⟨field, fun label => ?_⟩
  let other : Comparison := { comparison with field := path }
  let nodes : List Node := [.comparison label comparison, .connective label .or, .comparison label other]
  have same : text [.comparison label { comparison with field := field }] = text nodes := by
    apply String.toList_injective
    rw [text_comparison, text, String.toList_ofList]
    simp only [field, nodes, Spelling.writeAll, Spelling.writeAfter, Spelling.write, spelling,
      Comparison.predicate, Operator.pieces, other, around, String.toList_ofList]
    simp [Node.isOperand, Connective.symbol]
  have both : Clean nodes := ⟨clean, trivial, ⟨hpath, clean.finite⟩, trivial⟩
  have ordered : Ordered nodes :=
    ⟨.join .operand (.inr rfl) (.last .operand), trivial, trivial, trivial, trivial⟩
  have enough : levels nodes ≤ maxLevels := by
    have := comparison.operator.check.levels_le
    simp only [levels, nodes, levelsBehind, operandLevels, Comparison.levels, other]
    omega
  rw [same, parse_meaning both ordered enough]
  simp [meaning, nodes, conjunctions, prepend, operandTerm, disjunction, joinAll, Term.ofComparison, other]

/-! ### All fields -/

/-- A comparison reads as the question about one path exactly when its field names that path. So its field
    leaves the question as it is, or makes its text no predicate, exactly when the field names a path wherever
    the text is a sentence. -/
theorem field_keeps_question {label : Label} {comparison : Comparison}
    (finite : Piece.value ∈ comparison.operator.pieces →
      ∀ number, comparison.value = .number number → number.isFinite = true) :
    (∀ names, parse (text [.comparison label comparison]) =
        .ok (comparison.operator.check.expr names comparison.value) ↔ NamesPath names comparison.field.toList) ∧
    (((∃ fault, parse (text [.comparison label comparison]) = .error fault) ∨
        ∃ names, parse (text [.comparison label comparison]) =
          .ok (comparison.operator.check.expr names comparison.value)) ↔
      ((∃ expr, Sentence (text [.comparison label comparison]) expr) →
        ∃ names, NamesPath names comparison.field.toList)) := by
  have readable := Check.readable comparison.operator
  have spelled : Piece.value ∈ comparison.operator.check.pieces →
      (Token.scalar comparison.value).Spelled comparison.value.literal :=
    fun hmem => spelled_literal (finite hmem)
  have keeps : ∀ names, parse (text [.comparison label comparison]) =
      .ok (comparison.operator.check.expr names comparison.value) ↔
        NamesPath names comparison.field.toList := by
    intro names
    constructor
    · intro h
      obtain ⟨tokens, layout, derivation⟩ := sentence_of_parse h
      rw [text_comparison] at layout
      exact Check.namesPath readable spelled layout derivation
    · intro named
      obtain ⟨tokens, layout, derivation⟩ :=
        Check.sentence readable (fun hmem => Layout.single (spelled hmem)) named
      exact parse_of_sentence ⟨tokens, by rw [text_comparison]; exact layout, derivation⟩
  refine ⟨keeps, ?_, ?_⟩
  · rintro (⟨fault, hfault⟩ | ⟨names, hnames⟩) ⟨expr, sentence⟩
    · rw [parse_of_sentence sentence] at hfault
      cases hfault
    · exact ⟨names, (keeps names).mp hnames⟩
  · intro named
    cases h : parse (text [.comparison label comparison]) with
    | error fault => exact .inl ⟨fault, rfl⟩
    | ok expr =>
        obtain ⟨names, hnames⟩ := named ⟨expr, sentence_of_parse h⟩
        refine .inr ⟨names, ?_⟩
        rw [← h]
        exact (keeps names).mpr hnames

/-- A path of two steps with a blank behind it. -/
theorem field_keeps_question_of_tags :
    let comparison : Comparison := ⟨"tags?.old ", .isDateLessThan, .text "2024-01-01"⟩
    NamesPath ["tags", "old"] comparison.field.toList ∧
      parse (text [.comparison ⟨"c", none⟩ comparison]) = .ok (.compare .lt
        (.call .date [.path ["tags", "old"]]) (.call .date [.literal (.text "2024-01-01")])) := by
  intro comparison
  have joined : PathTail ["tags", "old"] (['?', '.'] ++ (['t', 'a', 'g', 's'] ++
      (['?', '.'] ++ (['o', 'l', 'd'] ++ [])))) :=
    .step (.inr rfl) (by decide) (.step (.inr rfl) (by decide) .nil)
  have named : NamesPath ["tags", "old"] comparison.field.toList :=
    ⟨['t', 'a', 'g', 's', '?', '.', 'o', 'l', 'd'], [' '], by decide, joined, rfl⟩
  have finite : ∀ number, comparison.value = .number number → number.isFinite = true := fun _ h => nomatch h
  exact ⟨named, ((field_keeps_question fun _ => finite).1 _).mpr named⟩

/-- A field with an `||` in it puts a path that no comparison is made of beside the comparison of another. -/
theorem field_adds_either :
    let comparison : Comparison := ⟨"a || record?.b", .equals, .bool true⟩
    let expr : Expr := .or (.path ["a"]) (.compare .eq (.path ["b"]) (.literal (.bool true)))
    parse (text [.comparison ⟨"c", none⟩ comparison]) = .ok expr ∧
      (∀ names, expr ≠ comparison.operator.check.expr names comparison.value) ∧
      expr.verdict (.map [(.text "a", .text "x")]) = .ok true := by
  refine ⟨rfl, ?_, rfl⟩
  intro names h
  cases h

end Predicate

end FilterTree
