/-
Module: FilterTree.Proofs.Verdict.Parentheses
Layer: Proofs
Purpose: Parentheses that change no verdict. The terms of siblings are asked in order, up to the first that
  decides, and that order does not depend on how they are nested. So a group without an `||` inside, or without
  an `&&` beside it, can be replaced by its children, and every record has the same verdict or the same fault.
Imports: FilterTree.Proofs.Tree.Negation, FilterTree.Proofs.Verdict.Chains
Main exports: Predicate.Agrees, Predicate.Alike.anyTrue_eq, Predicate.Unwraps.verdict,
  Predicate.unwrapped_verdict
-/
import FilterTree.Proofs.Tree.Negation
import FilterTree.Proofs.Verdict.Chains

namespace FilterTree.Predicate

/-! ### Terms with one verdict -/

section Record

variable {record : Value}

variable (record) in
/-- A term that may stand in the place of another one: the same term, or one that is reached as a whole where
    the other one is, with the same verdict. -/
inductive Agrees : Term → Term → Prop where
  | same (term : Term) : Agrees term term
  | reached {first second : Expr} (verdict : first.verdict record = second.verdict record) :
      Agrees (.ofGroup first) (.ofGroup second)

variable (record) in
/-- Conjunctions whose terms may stand in the place of those of others, one by one. -/
def Alike : List (List Term) → List (List Term) → Prop :=
  List.Forall₂ (List.Forall₂ (Agrees record))

variable {term other : Term} {former latter : List (List Term)}

theorem Agrees.verdict (agrees : Agrees record term other) :
    term.expr.verdict record = other.expr.verdict record := by
  cases agrees with
  | same => rfl
  | reached verdict => exact verdict

/-- They may stand in each other's place behind a negation too. -/
theorem Agrees.negated (agrees : Agrees record term other) : Agrees record term.negated other.negated := by
  cases agrees with
  | same => exact .same _
  | @reached first second verdict =>
      have turned : (Expr.not first).verdict record = (Expr.not second).verdict record := by
        rw [negates_not first, negates_not second, verdict]
      exact .reached turned

theorem Alike.refl (conjunctions : List (List Term)) : Alike record conjunctions conjunctions :=
  List.forall₂_same.mpr fun _ _ => List.forall₂_same.mpr fun term _ => .same term

theorem Alike.behind_term (agrees : Agrees record term other) (alike : Alike record former latter) :
    Alike record (prepend term former) (prepend other latter) := by
  cases alike with
  | nil => exact .cons (.cons agrees .nil) .nil
  | cons terms more => exact .cons (.cons agrees terms) more

theorem Alike.behind_not (alike : Alike record former latter) :
    Alike record (negateFirst former) (negateFirst latter) := by
  cases alike with
  | nil => exact .nil
  | cons terms more =>
      cases terms with
      | nil => exact .cons .nil more
      | cons agrees terms => exact .cons (.cons agrees.negated terms) more

/-- An operand in the place of another one leaves the conjunctions alike, when its term may stand in the place
    of the other one's. -/
theorem alike_exchange {node another : Node} (operand : node.isOperand = true)
    (exchanged : another.isOperand = true) (agrees : Agrees record (operandTerm node) (operandTerm another))
    (front back : List Node) :
    Alike record (conjunctions (front ++ node :: back)) (conjunctions (front ++ another :: back)) := by
  induction front with
  | nil =>
      rw [List.nil_append, List.nil_append, conjunctions_operand operand, conjunctions_operand exchanged]
      exact .behind_term agrees (.refl _)
  | cons sibling front ih =>
      cases sibling with
      | comparison | group =>
          rw [List.cons_append, List.cons_append, conjunctions_operand rfl, conjunctions_operand rfl]
          exact ih.behind_term (.same _)
      | connective label connective =>
          cases connective with
          | and => exact ih
          | or => exact .cons .nil ih
          | not => exact ih.behind_not

/-- Conjunctions that are alike have one verdict. -/
theorem Alike.anyTrue_eq (alike : Alike record former latter) :
    anyTrue record former = anyTrue record latter := by
  have conjunction : ∀ {terms others : List Term}, List.Forall₂ (Agrees record) terms others →
      allTrue record terms = allTrue record others := by
    intro terms others agree
    induction agree with
    | nil => rfl
    | cons agrees _ ih => exact congrArg₂ both agrees.verdict ih
  induction alike with
  | nil => rfl
  | cons terms _ ih => exact congrArg₂ either (conjunction terms) ih

/-- Conjunctions that have one verdict behind any terms have one verdict behind any siblings. -/
theorem anyTrue_glue (same : ∀ held : List Term,
      anyTrue record (held.foldr prepend former) = anyTrue record (held.foldr prepend latter)) :
    ∀ first, anyTrue record (glue first former) = anyTrue record (glue first latter)
  | [] => same []
  | [terms] => same terms
  | terms :: next :: more => congrArg (either (allTrue record terms)) (anyTrue_glue same (next :: more))

end Record

/-! ### Dropping parentheses -/

section Groups

variable {front children back : List Node} {label : Label} (inner : Ordered children) (record : Value)

include inner

/-- A group has the verdict of its children. -/
theorem verdict_group : (operandTerm (.group label children)).expr.verdict record =
    anyTrue record (conjunctions children) :=
  verdict_meaning inner record

/-- In a conjunction, terms without an `||` between them need no parentheses. -/
theorem anyTrue_conjunction (noEither : ∀ own, .connective own .or ∉ children)
    (head : Spans false front false) :
    anyTrue record (conjunctions (front ++ (children ++ back))) =
      anyTrue record (conjunctions (front ++ .group label children :: back)) := by
  obtain ⟨terms, hterms⟩ := conjunctions_single noEither
  obtain ⟨next, others, hnext⟩ := exists_conjunctions back
  have hgroup : allTrue record [operandTerm (.group label children)] = allTrue record terms := by
    rw [allTrue_single, verdict_group inner, hterms, anyTrue_single]
  rw [head.conjunctions_append, head.conjunctions_append, (ordered_iff.mp inner).1.conjunctions_append,
    conjunctions_operand rfl, hterms, glue, hnext]
  apply anyTrue_glue
  intro held
  have conjunction : allTrue record (held ++ (terms ++ next)) =
      allTrue record (held ++ ([operandTerm (.group label children)] ++ next)) := by
    rw [allTrue_append, allTrue_append, allTrue_append, allTrue_append, hgroup]
  rw [foldr_prepend, foldr_prepend, prepend, foldr_prepend]
  exact congrArg (either · (anyTrue record others)) conjunction

/-- Between conjunctions, a group needs no parentheses. -/
theorem anyTrue_disjunction (before : EndsWith (· = .or) front) (behind : BeginsWith (· = .or) back) :
    anyTrue record (conjunctions (front ++ (children ++ back))) =
      anyTrue record (conjunctions (front ++ .group label children :: back)) := by
  obtain ⟨earlier, hearlier⟩ := before.conjunctions_append
  obtain ⟨later, hlater⟩ := behind.conjunctions_append
  have hgroup : conjunctions (.group label children :: back) = [[operandTerm (.group label children)]] ++ later :=
    hlater [_]
  have alone : anyTrue record [[operandTerm (.group label children)]] = anyTrue record (conjunctions children) := by
    rw [anyTrue_single, allTrue_single, verdict_group inner]
  simp only [hearlier, hlater, hgroup, anyTrue_append, alone]

end Groups

/-- Every record has the verdict that it had before. -/
theorem Unwraps.verdict {nodes flat : List Node} (unwraps : Unwraps nodes flat) (ordered : Ordered nodes)
    (record : Value) : (meaning flat).verdict record = (meaning nodes).verdict record := by
  induction unwraps with
  | here before behind loose =>
      rw [verdict_meaning (Unwraps.ordered (.here before behind loose) ordered), verdict_meaning ordered]
      have inner := ordered_children ordered
      rcases loose with noEither | ⟨before, behind⟩
      · exact anyTrue_conjunction inner record noEither (spans_parts before ordered).1
      · exact anyTrue_disjunction inner record before behind
  | inside front back label deeper ih =>
      rw [verdict_meaning (Unwraps.ordered (.inside front back label deeper) ordered), verdict_meaning ordered]
      have agrees := Agrees.reached (ih (ordered_children ordered))
      exact (alike_exchange rfl rfl agrees front back).anyTrue_eq

/-- Redundant parentheses can be dropped. Where the text of a clean tree reads as an expression, and a group of
    it, at any depth, stands between `&&`s, `||`s and the ends of its siblings, the text of the tree with the
    children of the group in its place reads as an expression too, and both have the same verdict or the same
    fault on every record: whenever the group has no `||` between its children, or no `&&` beside it. -/
theorem unwrapped_verdict {nodes flat : List Node} {expr : Expr} (clean : Clean nodes)
    (h : parse (text nodes) = .ok expr) (unwraps : Unwraps nodes flat) :
    ∃ flatExpr, parse (text flat) = .ok flatExpr ∧
      ∀ record, flatExpr.verdict record = expr.verdict record := by
  obtain ⟨ordered, enough, rfl⟩ := eq_meaning_of_parse clean h
  have fewer := unwraps.levels_le ordered
  refine ⟨meaning flat, ?_, unwraps.verdict ordered⟩
  exact parse_meaning (unwraps.clean clean) (unwraps.ordered ordered) (Nat.le_trans fewer enough)

/-- A conjunction with a negation in it, in the parentheses of a conjunction that is negated as a whole. -/
theorem unwrapped_verdict_of_active :
    let name : Node := .comparison ⟨"a", none⟩ ⟨"name", .startsWith, .text "A"⟩
    let active : Node := .comparison ⟨"b", some "g"⟩ ⟨"active", .equals, .bool true⟩
    let inner : List Node := [.comparison ⟨"c", some "h"⟩ ⟨"name", .contains, .text "b"⟩,
      .connective ⟨"m", none⟩ .and, .connective ⟨"n", none⟩ .not,
      .comparison ⟨"d", some "h"⟩ ⟨"tags", .isEmpty, .undefined⟩]
    let front : List Node := [name, .connective ⟨"o", none⟩ .or, .connective ⟨"p", none⟩ .not]
    let nodes : List Node :=
      front ++ [.group ⟨"g", none⟩ [active, .connective ⟨"q", none⟩ .and, .group ⟨"h", none⟩ inner]]
    let flat : List Node := front ++ [.group ⟨"g", none⟩ (active :: .connective ⟨"q", none⟩ .and :: inner)]
    Clean nodes ∧ parse (text nodes) = .ok (meaning nodes) ∧ Unwraps nodes flat ∧
      ∃ expr, parse (text flat) = .ok expr ∧ ∀ record, expr.verdict record = (meaning nodes).verdict record := by
  intro name active inner front nodes flat
  have paths : IsPath ['n', 'a', 'm', 'e'] ∧ IsPath ['a', 'c', 't', 'i', 'v', 'e'] ∧ IsPath ['t', 'a', 'g', 's'] :=
    ⟨.last (by decide), .last (by decide), .last (by decide)⟩
  have cleanInner : Clean inner :=
    ⟨⟨paths.1, fun _ _ h => nomatch h⟩, trivial, trivial, ⟨paths.2.2, fun _ _ h => nomatch h⟩, trivial⟩
  have clean : Clean nodes :=
    ⟨⟨paths.1, fun _ _ h => nomatch h⟩, trivial, trivial,
      ⟨⟨paths.2.1, fun _ _ h => nomatch h⟩, trivial, cleanInner, trivial⟩, trivial⟩
  have orderedInner : IsSequence (marks false inner) := .join .operand (.inl rfl) (.last (.not .operand))
  have ordered : Ordered nodes :=
    ⟨.join .operand (.inr rfl) (.last (.not .operand)), trivial, trivial, trivial,
      ⟨.join .operand (.inl rfl) (.last .operand), trivial, trivial,
        ⟨orderedInner, trivial, trivial, trivial, trivial, trivial⟩, trivial⟩, trivial⟩
  have reads : parse (text nodes) = .ok (meaning nodes) := parse_meaning clean ordered (by decide)
  have unwraps : Unwraps nodes flat :=
    .inside front [] _ (.here (.connective [active] _ (.inl rfl)) .nothing (.inl (by simp [inner])))
  exact ⟨clean, reads, unwraps, unwrapped_verdict clean reads unwraps⟩

end FilterTree.Predicate
