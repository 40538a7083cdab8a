/-
Module: FilterTree.Proofs.Tree.Negation
Layer: Proofs
Purpose: What a `!` in front of an operand does to the verdicts on records. In front of a call or of a group it
  turns every verdict around. In front of a comparison with two sides it reaches the left side only, so the
  relation then holds between the negated truth of that side and the right side. It changes no fault.
Imports: FilterTree.Proofs.Tree.RoundTrip, FilterTree.Predicate.Eval
Main exports: Negates, NegatesLeft, not_before_operand
-/
import FilterTree.Proofs.Tree.RoundTrip
import FilterTree.Predicate.Eval

namespace FilterTree.Predicate

/-- Every verdict of one expression is the other way around for the other, and every fault is the same. -/
def Negates (negated expr : Expr) : Prop :=
  ∀ record, negated.verdict record = (expr.verdict record).map (!·)

/-- One expression is a relation of two sides; the other one holds when the relation holds between the negated
    truth of the left side and the right side. -/
def NegatesLeft (negated expr : Expr) (relation : Relation) (left right : Expr) : Prop :=
  (∀ record, expr.verdict record = do
    let first ← left.eval record
    let second ← right.eval record
    .ok (relation.holds first second)) ∧
  ∀ record, negated.verdict record = do
    let first ← left.eval record
    let second ← right.eval record
    .ok (relation.holds (.bool (!first.isTrue)) second)

/-- A negation turns the verdict around. -/
theorem negates_not (expr : Expr) : Negates (.not expr) expr := by
  intro record
  rw [Expr.verdict, Expr.verdict, Expr.eval]
  cases expr.eval record with
  | error fault => rfl
  | ok operand => rfl

/-- A negation on the left of a relation stays on the left. -/
theorem negatesLeft_compare (relation : Relation) (left right : Expr) :
    NegatesLeft (.compare relation (.not left) right) (.compare relation left right) relation left right := by
  constructor <;> intro record
  · rw [Expr.verdict, Expr.eval]
    cases left.eval record with
    | error fault => rfl
    | ok first =>
        cases right.eval record with
        | error fault => rfl
        | ok second => rfl
  · rw [Expr.verdict, Expr.eval, Expr.eval]
    cases left.eval record with
    | error fault => rfl
    | ok first =>
        cases right.eval record with
        | error fault => rfl
        | ok second => rfl

/-- With a negation on the left, a relation has the same faults as without. -/
theorem NegatesLeft.fault_iff {negated expr left right : Expr} {relation : Relation}
    (h : NegatesLeft negated expr relation left right) (record : Value) (fault : Fault) :
    expr.verdict record = .error fault ↔ negated.verdict record = .error fault := by
  rw [h.1, h.2]
  cases left.eval record with
  | error fault => exact Iff.rfl
  | ok first =>
      cases right.eval record with
      | error fault => exact Iff.rfl
      | ok second => exact ⟨(nomatch ·), (nomatch ·)⟩

/-! ### Groups -/

/-- A group whose children read on their own as an expression reads as it, and behind a negation as its
    negation. -/
theorem parse_group {own label : Label} {children : List Node} {inner expr negated : Expr}
    (hinner : parse (text children) = .ok inner) (hexpr : parse (text [.group own children]) = .ok expr)
    (hnegated : parse (text [.connective label .not, .group own children]) = .ok negated) :
    expr = inner ∧ negated = .not inner := by
  obtain ⟨tokens, layout, derivation⟩ := sentence_of_parse hinner
  rw [text, String.toList_ofList] at layout
  have grouped : Layout (.openParen :: (tokens ++ [.closeParen])) (text [.group own children]).toList := by
    have whole := (Layout.single .openParen).append (layout.append (Layout.single .closeParen))
    rw [text, String.toList_ofList]
    simpa [Spelling.writeAll, Spelling.writeAfter, Spelling.write, Node.isOperand] using whole
  have unary : Grammar.Unary (maxLevels + 1) (.openParen :: (tokens ++ [.closeParen])) inner :=
    .primary (.group derivation)
  have negatedLayout : Layout (.bang :: .openParen :: (tokens ++ [.closeParen]))
      (text [.connective label .not, .group own children]).toList := by
    have whole := Layout.blanks_append Text.isBlankText_space ((Layout.single .bang).append
      (Layout.blanks_append Text.isBlankText_space grouped))
    rw [text, String.toList_ofList] at whole ⊢
    simpa [Spelling.writeAll, Spelling.writeAfter, Spelling.write, Node.isOperand, spelling,
      Connective.symbol] using whole
  obtain ⟨_, exprLayout, exprDerivation⟩ := sentence_of_parse hexpr
  obtain ⟨_, otherLayout, otherDerivation⟩ := sentence_of_parse hnegated
  constructor
  · exact exprDerivation.unique exprLayout (Phrase.disjunction unary) grouped
  · exact otherDerivation.unique otherLayout (Phrase.disjunction (.not unary)) negatedLayout

/-! ### Operands -/

/-- A clean comparison reads as its question, and behind a negation as its term negated. -/
theorem parse_comparison {own label : Label} {comparison : Comparison} {expr negated : Expr}
    (clean : comparison.Clean) (hexpr : parse (text [.comparison own comparison]) = .ok expr)
    (hnegated : parse (text [.connective label .not, .comparison own comparison]) = .ok negated) :
    expr = (Term.ofComparison comparison).expr ∧ negated = (Term.ofComparison comparison).negated.expr :=
  have single : Clean [.comparison own comparison] := ⟨clean, trivial⟩
  have behind : Clean [.connective label .not, .comparison own comparison] := ⟨trivial, clean, trivial⟩
  ⟨(eq_meaning_of_parse single hexpr).2.2, (eq_meaning_of_parse behind hnegated).2.2⟩

/-- The children of a clean group that reads as an expression read as one on their own. -/
theorem parse_children {own : Label} {children : List Node} {expr : Expr} (clean : Clean children)
    (hexpr : parse (text [.group own children]) = .ok expr) : ∃ inner, parse (text children) = .ok inner := by
  obtain ⟨ordered, enough⟩ := ordered_of_parse_group clean hexpr
  exact ⟨_, parse_meaning clean ordered (by omega)⟩

/-- A `!` in front of an operand, where both texts read as expressions. In front of a call, and in front of a
    group that is clean or has children that read as an expression on their own, it turns every verdict around.
    In front of a comparison of two sides it negates the left side only. In every case the faults stay. -/
theorem not_before_operand {label : Label} {operand : Node} {expr negated : Expr}
    (hexpr : parse (text [operand]) = .ok expr)
    (hnegated : parse (text [.connective label .not, operand]) = .ok negated) :
    (∀ own comparison, operand = .comparison own comparison → comparison.Clean →
      (∀ relation left right,
        comparison.operator.check.expr comparison.steps comparison.value = .compare relation left right →
          NegatesLeft negated expr relation left right ∧
            ∀ record fault, expr.verdict record = .error fault ↔ negated.verdict record = .error fault) ∧
      ∀ function not, comparison.operator.check = .matching function not → Negates negated expr) ∧
    ∀ own children, operand = .group own children →
      Clean children ∨ (∃ inner, parse (text children) = .ok inner) → Negates negated expr := by
  constructor
  · rintro own comparison rfl clean
    obtain ⟨rfl, rfl⟩ := parse_comparison clean hexpr hnegated
    constructor
    · intro relation left right hsides
      have negatesLeft : NegatesLeft (Term.ofComparison comparison).negated.expr
          (Term.ofComparison comparison).expr relation left right := by
        rw [Term.ofComparison, hsides]
        exact negatesLeft_compare relation left right
      exact ⟨negatesLeft, negatesLeft.fault_iff⟩
    · intro function not hcheck
      rw [Term.ofComparison, hcheck]
      cases not with
      | true => exact negates_not _
      | false => exact negates_not _
  · rintro own children rfl hchildren
    obtain ⟨inner, hinner⟩ : ∃ inner, parse (text children) = .ok inner := by
      rcases hchildren with clean | hinner
      · exact parse_children clean hexpr
      · exact hinner
    obtain ⟨rfl, rfl⟩ := parse_group hinner hexpr hnegated
    exact negates_not expr

/-- A comparison of two sides behind a `!`, and a group of it. The one keeps its right side, the other is negated. -/
theorem not_before_operand_of_active :
    let comparison : Node := .comparison ⟨"c", none⟩ ⟨"active", .equals, .bool true⟩
    let group : Node := .group ⟨"g", none⟩ [.comparison ⟨"c", some "g"⟩ ⟨"active", .equals, .bool true⟩]
    let active : Expr := .compare .eq (.path ["active"]) (.literal (.bool true))
    let inactive : Expr := .compare .eq (.not (.path ["active"])) (.literal (.bool true))
    (parse (text [comparison]) = .ok active ∧
        parse (text [.connective ⟨"n", none⟩ .not, comparison]) = .ok inactive ∧
        NegatesLeft inactive active .eq (.path ["active"]) (.literal (.bool true)) ∧
        ∀ record fault, active.verdict record = .error fault ↔ inactive.verdict record = .error fault) ∧
      parse (text [group]) = .ok active ∧
      parse (text [.connective ⟨"n", none⟩ .not, group]) = .ok (.not active) ∧
      Negates (.not active) active := by
  intro comparison group active inactive
  have hpath : IsPath ['a', 'c', 't', 'i', 'v', 'e'] := .last (by decide)
  have clean : Comparison.Clean ⟨"active", .equals, .bool true⟩ := ⟨hpath, fun _ _ h => nomatch h⟩
  have children : Clean [.comparison ⟨"c", some "g"⟩ ⟨"active", .equals, .bool true⟩] := ⟨clean, trivial⟩
  have hexpr : parse (text [comparison]) = .ok active :=
    @parse_meaning [comparison] ⟨clean, trivial⟩ ⟨.last .operand, trivial, trivial⟩ (by decide)
  have hnegated : parse (text [.connective ⟨"n", none⟩ .not, comparison]) = .ok inactive :=
    @parse_meaning [.connective ⟨"n", none⟩ .not, comparison] ⟨trivial, clean, trivial⟩
      ⟨.last (.not .operand), trivial, trivial, trivial⟩ (by decide)
  have hgroup : parse (text [group]) = .ok active :=
    @parse_meaning [group] ⟨children, trivial⟩
      ⟨.last .operand, ⟨.last .operand, trivial, trivial⟩, trivial⟩ (by decide)
  have hgroupNegated : parse (text [.connective ⟨"n", none⟩ .not, group]) = .ok (.not active) :=
    @parse_meaning [.connective ⟨"n", none⟩ .not, group] ⟨trivial, children, trivial⟩
      ⟨.last (.not .operand), trivial, ⟨.last .operand, trivial, trivial⟩, trivial⟩ (by decide)
  obtain ⟨sides, faults⟩ := ((not_before_operand hexpr hnegated).1 _ _ rfl clean).1 _ _ _ rfl
  exact ⟨⟨hexpr, hnegated, sides, faults⟩, hgroup, hgroupNegated,
    (not_before_operand hgroup hgroupNegated).2 _ _ rfl (.inl children)⟩

/-- A `!` does not negate what follows it in general: not a comparison of two sides, and not a group with a
    field that closes it. -/
theorem not_before_operand_keeps :
    (let comparison : Node := .comparison ⟨"c", none⟩ ⟨"active", .equals, .bool true⟩
      let record : Value := .map [(.text "active", .text "yes")]
      ∃ expr negated, parse (text [comparison]) = .ok expr ∧
        parse (text [.connective ⟨"n", none⟩ .not, comparison]) = .ok negated ∧
        expr.verdict record = .ok false ∧ negated.verdict record = .ok false) ∧
    let group : Node := .group ⟨"g", none⟩
      [.comparison ⟨"c", some "g"⟩ ⟨"a) == true || (true", .equals, .bool true⟩]
    ∃ expr negated, parse (text [group]) = .ok expr ∧
      parse (text [.connective ⟨"n", none⟩ .not, group]) = .ok negated ∧
      expr.verdict (.map []) = .ok true ∧ negated.verdict (.map []) = .ok true := by
  refine ⟨⟨.compare .eq (.path ["active"]) (.literal (.bool true)),
    .compare .eq (.not (.path ["active"])) (.literal (.bool true)), ?_, ?_, ?_, ?_⟩,
    ⟨.or (.compare .eq (.path ["a"]) (.literal (.bool true)))
      (.compare .eq (.literal (.bool true)) (.literal (.bool true))),
    .or (.compare .eq (.not (.path ["a"])) (.literal (.bool true)))
      (.compare .eq (.literal (.bool true)) (.literal (.bool true))), ?_, ?_, ?_, ?_⟩⟩ <;> rfl

end FilterTree.Predicate
