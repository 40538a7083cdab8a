/-
Module: FilterTree.Proofs.Tree.RoundTrip
Layer: Proofs
Purpose: Writing a clean tree and reading the text again. The parser gives an expression exactly when the
  siblings are in order on every level of the tree and no place takes more levels than the language has, and
  then it gives the meaning of the tree.
Imports: FilterTree.Proofs.Tree.Siblings
Main exports: Predicate.parse_meaning, Predicate.parse_single, Predicate.parse_error, Predicate.eq_meaning_of_parse,
  Predicate.ordered_of_parse_group, Predicate.parse_text_iff
-/
import FilterTree.Proofs.Tree.Siblings

namespace FilterTree.Predicate

open Text (skipBlanks)

/-- The answer to a whole tree. -/
theorem text_answers {nodes : List Node} (clean : Clean nodes) :
    Answers (Ordered nodes ∧ levels nodes ≤ maxLevels) (meaning nodes)
      (orExpr (text nodes).toList.length (unary (text nodes).toList.length maxLevels) (text nodes).toList)
      [] := by
  have htext : spelling.writeAll nodes ++ [] = (text nodes).toList := by
    rw [text, String.toList_ofList, List.append_nil]
  have inFront := (siblings_answer (text nodes).toList.length clean).1
  have answers := inFront.alone maxLevels (.inl rfl) (Nat.le_of_eq (congrArg List.length htext))
  rw [htext] at answers
  exact answers

/-- The text of a clean tree that is ordered and not too deep reads as what the tree means. -/
theorem parse_meaning {nodes : List Node} (clean : Clean nodes) (ordered : Ordered nodes)
    (enough : levels nodes ≤ maxLevels) : parse (text nodes) = .ok (meaning nodes) := by
  obtain ⟨last, hread, hlast⟩ := (text_answers clean).accepted ⟨ordered, enough⟩
  exact parse_ended hread hlast

/-- The text of a clean comparison that stands alone reads as its question. -/
theorem parse_single {label : Label} {comparison : Comparison} (clean : comparison.Clean) :
    parse (text [.comparison label comparison]) =
      .ok (comparison.operator.check.expr comparison.steps comparison.value) := by
  have single : Clean [.comparison label comparison] := ⟨clean, trivial⟩
  have ordered : Ordered [.comparison label comparison] := ⟨.last .operand, trivial, trivial⟩
  have enough : levels [.comparison label comparison] ≤ maxLevels := by
    have := comparison.operator.check.levels_le
    simp only [levels, levelsBehind, operandLevels, Comparison.levels]
    omega
  have means : meaning [.comparison label comparison] =
      comparison.operator.check.expr comparison.steps comparison.value :=
    Term.expr_ofExpr _
  rw [parse_meaning single ordered enough, means]

/-- No other clean tree has a text that reads as anything. -/
theorem parse_error {nodes : List Node} (clean : Clean nodes)
    (bad : ¬ (Ordered nodes ∧ levels nodes ≤ maxLevels)) : ∃ fault, parse (text nodes) = .error fault := by
  rcases (text_answers clean).refused bad with ⟨stop, hstop⟩ | ⟨other, last, behind, hread, hlast⟩
  · exact parse_refused hstop
  · exact parse_trailing hread hlast

/-- What the text of a clean tree reads as is what the tree means. -/
theorem eq_meaning_of_parse {nodes : List Node} (clean : Clean nodes) {expr : Expr}
    (h : parse (text nodes) = .ok expr) : Ordered nodes ∧ levels nodes ≤ maxLevels ∧ expr = meaning nodes := by
  by_cases good : Ordered nodes ∧ levels nodes ≤ maxLevels
  · rw [parse_meaning clean good.1 good.2] at h
    cases h
    exact ⟨good.1, good.2, rfl⟩
  · obtain ⟨fault, hfault⟩ := parse_error clean good
    rw [hfault] at h
    cases h

/-- Where a clean group reads as an expression, its children are ordered, and a level is left around them. -/
theorem ordered_of_parse_group {label : Label} {children : List Node} {expr : Expr} (clean : Clean children)
    (h : parse (text [.group label children]) = .ok expr) :
    Ordered children ∧ 1 + levels children ≤ maxLevels := by
  have single : Clean [.group label children] := ⟨clean, trivial⟩
  obtain ⟨⟨-, inOrder, -⟩, enough, -⟩ := eq_meaning_of_parse single h
  have most : 0 + (1 + levels children) ≤ levels [.group label children] := Nat.le_max_left _ _
  exact ⟨inOrder, by omega⟩

/-- The parser undoes writing: the text of a clean tree reads as an expression if and only if the tree is
    ordered and takes no more levels than there are, and the expression is what the tree means. -/
theorem parse_text_iff {nodes : List Node} (clean : Clean nodes) (expr : Expr) :
    parse (text nodes) = .ok expr ↔ Ordered nodes ∧ levels nodes ≤ maxLevels ∧ expr = meaning nodes := by
  constructor
  · exact eq_meaning_of_parse clean
  · rintro ⟨ordered, enough, rfl⟩
    exact parse_meaning clean ordered enough

/-- Two comparisons, one in a group behind an `||` and a negation. -/
theorem parse_text_either_not_group :
    let nodes : List Node := [
      .comparison ⟨"a", none⟩ ⟨"name", .startsWith, .text "O'H"⟩, .connective ⟨"b", none⟩ .or,
      .connective ⟨"c", none⟩ .not,
      .group ⟨"d", none⟩ [.comparison ⟨"e", some "d"⟩ ⟨"tags?.old", .isEmpty, .undefined⟩]]
    Clean nodes ∧ parse (text nodes) = .ok (.or
      (.call .startsWith [.call .lower [.path ["name"]], .call .lower [.literal (.text "O'H")]])
      (.not (.compare .eq (.call .len [.path ["tags", "old"]]) (.literal (.number .zero))))) := by
  intro nodes
  have name : IsPath ['n', 'a', 'm', 'e'] := .last (by decide)
  have tags : IsPath (['t', 'a', 'g', 's'] ++ (['?', '.'] ++ ['o', 'l', 'd'])) :=
    .step (by decide) (.inr rfl) (.last (by decide))
  have clean : Clean nodes :=
    ⟨⟨name, fun _ _ h => nomatch h⟩, trivial, trivial, ⟨⟨tags, fun _ _ h => nomatch h⟩, trivial⟩, trivial⟩
  have sequence : IsSequence [.operand, .connective .or, .connective .not, .operand] :=
    .join .operand (.inr rfl) (.last (.not .operand))
  have ordered : Ordered nodes :=
    ⟨sequence, trivial, trivial, trivial, ⟨.last .operand, trivial, trivial⟩, trivial⟩
  exact ⟨clean, (parse_text_iff clean _).mpr ⟨ordered, by decide, by decide⟩⟩

end FilterTree.Predicate
