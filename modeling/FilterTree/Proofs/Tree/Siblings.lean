/-
Module: FilterTree.Proofs.Tree.Siblings
Layer: Proofs
Purpose: What the parser makes of written siblings. It goes through them one by one, either in front of a
  term or behind one, and it gives their meaning exactly when their order is right, every group in them is in
  order, and no place takes more levels than are left. The proof is an induction over the tree: a group is
  read as its children are.
Imports: FilterTree.Proofs.Grammar.Chains, FilterTree.Proofs.Tree.Terms
Main exports: Runs, isSequence_iff_runs, Answers, siblings_answer, group_operand
-/
import FilterTree.Proofs.Grammar.Chains
import FilterTree.Proofs.Tree.Terms

namespace FilterTree.Predicate

open Text (isBlankText skipBlanks)

/-! ### The order of siblings, mark by mark -/

/-- Whether marks go on rightly, in front of a term or behind one. -/
def Runs : Bool → List Mark → Prop
  | true, .operand :: rest => Runs false rest
  | true, .connective .not :: rest => Runs true rest
  | true, _ => False
  | false, [] => True
  | false, .connective .and :: rest => Runs true rest
  | false, .connective .or :: rest => Runs true rest
  | false, _ => False

/-- A term leads from its front to behind it. -/
theorem IsTerm.runs_iff {term : List Mark} (h : IsTerm term) (rest : List Mark) :
    Runs true (term ++ rest) ↔ Runs false rest := by
  induction h with
  | operand => exact Iff.rfl
  | not _ ih => exact ih

/-- One more negation in front of a sequence belongs to its first term. -/
theorem IsSequence.not {marks : List Mark} (h : IsSequence marks) :
    IsSequence (.connective .not :: marks) := by
  cases h with
  | last first => exact .last first.not
  | join first joined others =>
      rw [← List.cons_append]
      exact .join first.not joined others

/-- What follows a term that leads on: nothing, or a connective and a sequence. -/
theorem isSequence_of_runs : ∀ marks : List Mark,
    (Runs true marks → IsSequence marks) ∧
      (Runs false marks → marks = [] ∨ ∃ connective rest,
        marks = .connective connective :: rest ∧ (connective = .and ∨ connective = .or) ∧ IsSequence rest)
  | [] => ⟨False.elim, fun _ => .inl rfl⟩
  | .operand :: rest => by
      refine ⟨fun h => ?_, False.elim⟩
      rcases (isSequence_of_runs rest).2 h with rfl | ⟨connective, others, rfl, joined, sequence⟩
      · exact .last .operand
      · exact .join .operand joined sequence
  | .connective .not :: rest => ⟨fun h => ((isSequence_of_runs rest).1 h).not, False.elim⟩
  | .connective .and :: rest =>
      ⟨False.elim, fun h => .inr ⟨.and, rest, rfl, .inl rfl, (isSequence_of_runs rest).1 h⟩⟩
  | .connective .or :: rest =>
      ⟨False.elim, fun h => .inr ⟨.or, rest, rfl, .inr rfl, (isSequence_of_runs rest).1 h⟩⟩

/-- Sequences of terms are the marks that go on rightly to their end. -/
theorem isSequence_iff_runs {marks : List Mark} : IsSequence marks ↔ Runs true marks := by
  refine ⟨fun h => ?_, (isSequence_of_runs marks).1⟩
  induction h with
  | @last term first =>
      rw [← List.append_nil term]
      exact (first.runs_iff []).mpr trivial
  | join first joined _ ih =>
      refine (first.runs_iff _).mpr ?_
      rcases joined with rfl | rfl
      · exact ih
      · exact ih

/-! ### Connectives and operands -/

theorem groupsOrdered_connective (label : Label) (connective : Connective) (nodes : List Node) :
    GroupsOrdered (.connective label connective :: nodes) = GroupsOrdered nodes :=
  true_and _

section Operand

variable {node : Node} (operand : node.isOperand = true) (rest : List Node)

include operand

theorem marks_operand (after : Bool) : marks after (node :: rest) =
    (if after then [.connective .and] else []) ++ .operand :: marks true rest := by
  cases node with
  | comparison | group => cases after <;> rfl
  | connective => cases operand

theorem levelsBehind_operand (n : Nat) :
    levelsBehind n (node :: rest) = max (n + operandLevels node) (levelsBehind 0 rest) := by
  cases node with
  | comparison => rfl
  | group => rfl
  | connective => cases operand

theorem conjunctions_operand :
    conjunctions (node :: rest) = prepend (operandTerm node) (conjunctions rest) := by
  cases node with
  | comparison => rfl
  | group => rfl
  | connective => cases operand

theorem writeAfter_operand (after : Bool) : spelling.writeAfter after (node :: rest) =
    (if after then [' ', '&', '&', ' '] else []) ++
      (spelling.write node ++ spelling.writeAfter true rest) := by
  rw [Spelling.writeAfter, operand, Bool.and_true]
  rfl

end Operand

/-! ### The meaning of siblings, from left to right -/

/-- The expression of a conjunction. -/
def conjunctionExpr (terms : List Term) : Expr :=
  joinAll .and (terms.map Term.expr)

/-- What the conjunctions that are left give, when the first of them goes on with the conjunction `held` behind
    the disjunction `before`. -/
def finish (before : Option Expr) (held : Expr) : List (List Term) → Expr
  | [] => attach .or before held
  | terms :: others =>
    (others.map conjunctionExpr).foldl .or (attach .or before ((terms.map Term.expr).foldl .and held))

/-- What the conjunctions that are left give in front of their first term. -/
def start (before held : Option Expr) : List (List Term) → Expr
  | (term :: terms) :: others => finish before (attach .and held term.expr) (terms :: others)
  | _ => default

/-- Behind an `||` the conjunction before it has moved. -/
theorem finish_either (before : Option Expr) (held : Expr) (conjunctions : List (List Term))
    (term : Term) (terms : List Term) (others : List (List Term))
    (h : conjunctions = (term :: terms) :: others) :
    finish before held ([] :: conjunctions) = start (some (attach .or before held)) none conjunctions := by
  subst h
  rfl

theorem disjunction_start {conjunctions : List (List Term)} {term : Term} {terms : List Term}
    {others : List (List Term)} (h : conjunctions = (term :: terms) :: others) :
    disjunction conjunctions = start none none conjunctions := by
  subst h
  rfl

/-- Negations of the first term. -/
def notFirst : Nat → List (List Term) → List (List Term)
  | 0, conjunctions => conjunctions
  | n + 1, conjunctions => notFirst n (negateFirst conjunctions)

theorem notted_not (n : Nat) (expr : Expr) : notted n (.not expr) = .not (notted n expr) := by
  induction n with
  | zero => rfl
  | succ n ih => rw [notted, ih]; rfl

/-- A negation in front of a term is one of that term. -/
theorem negateFirst_prepend (term : Term) (conjunctions : List (List Term)) :
    negateFirst (prepend term conjunctions) = prepend term.negated conjunctions := by
  cases conjunctions <;> rfl

/-- The negations in front of an operand are those of its term. -/
theorem notFirst_prepend (n : Nat) (term : Term) (conjunctions : List (List Term)) :
    notFirst n (prepend term conjunctions) = prepend (term.notted n) conjunctions := by
  induction n generalizing term with
  | zero => rfl
  | succ n ih =>
      rw [notFirst, negateFirst_prepend, ih]
      have hnotted : term.negated.notted n = term.notted (n + 1) := by
        rw [Term.notted, Term.notted, Term.negated, notted_not]
        rfl
      rw [hnotted]

/-- Siblings in their order have a first term. -/
theorem conjunctions_of_runs : ∀ {nodes : List Node}, Runs true (marks false nodes) →
    ∃ term terms others, conjunctions nodes = (term :: terms) :: others
  | [], h => h.elim
  | .connective _ .not :: rest, h => by
      obtain ⟨term, terms, others, hrest⟩ := @conjunctions_of_runs rest h
      exact ⟨term.negated, terms, others, by rw [conjunctions, hrest, negateFirst]⟩
  | .connective _ .and :: _, h => h.elim
  | .connective _ .or :: _, h => h.elim
  | .comparison _ comparison :: rest, _ => by
      rw [conjunctions_operand rfl]
      cases conjunctions rest <;> exact ⟨_, _, _, rfl⟩
  | .group _ children :: rest, _ => by
      rw [conjunctions_operand rfl]
      cases conjunctions rest <;> exact ⟨_, _, _, rfl⟩

theorem start_prepend (before held : Option Expr) (term : Term) (conjunctions : List (List Term)) :
    start before held (prepend term conjunctions) =
      finish before (attach .and held term.expr) conjunctions := by
  cases conjunctions <;> rfl

theorem finish_prepend (before : Option Expr) (held : Expr) (term : Term) (conjunctions : List (List Term)) :
    finish before held (prepend term conjunctions) = finish before (.and held term.expr) conjunctions := by
  cases conjunctions <;> rfl

/-- Behind an `&&` the conjunction goes on with its next term. -/
theorem finish_both {before : Option Expr} {held : Expr} {nodes : List Node}
    (runs : Runs true (marks false nodes)) :
    finish before held (conjunctions nodes) = start before (some held) (conjunctions nodes) := by
  obtain ⟨term, terms, others, h⟩ := conjunctions_of_runs runs
  rw [h]
  rfl

/-! ### Answers -/

/-- The text behind siblings: nothing, or the parenthesis that closes their group. -/
def Ended (rest : List Char) : Prop :=
  rest = [] ∨ ∃ behind, rest = ')' :: behind

theorem Ended.closed {rest : List Char} (h : Ended rest) : Closed rest := by
  rcases h with rfl | ⟨behind, rfl⟩
  · exact closed_nil
  · exact closed_mark (.inl rfl) (rfl : Text.isBlankText [] = true) behind

/-- A parser gives an expression and leaves what stands behind its text, up to blanks, if all is good; else it
    gives nothing, or leaves a negation where none may stand. -/
structure Answers (good : Prop) (expr : Expr) (result : Except Stop (Expr × List Char)) (rest : List Char) :
    Prop where
  accepted : good → ∃ last, result = .ok (expr, last) ∧ skipBlanks last = skipBlanks rest
  refused : ¬ good → (∃ stop, result = .error stop) ∨
    ∃ other last behind, result = .ok (other, last) ∧ skipBlanks last = '!' :: behind

namespace Answers

variable {good : Prop} {expr : Expr} {result : Except Stop (Expr × List Char)} {rest : List Char}

/-- What is good may be said in another way, and so may the expression of what is good. -/
theorem congr {good' : Prop} {expr' : Expr} (answers : Answers good expr result rest) (same : good ↔ good')
    (equal : good → expr = expr') : Answers good' expr' result rest := by
  constructor
  · intro h
    obtain ⟨last, hresult, hlast⟩ := answers.accepted (same.mpr h)
    rw [equal (same.mpr h)] at hresult
    exact ⟨last, hresult, hlast⟩
  · intro h
    exact answers.refused fun hgood => h (same.mp hgood)

theorem of_error {stop : Stop} (bad : ¬ good) (h : result = .error stop) : Answers good expr result rest :=
  ⟨fun hgood => absurd hgood bad, fun _ => .inl ⟨stop, h⟩⟩

/-- Blanks in front change no answer. -/
theorem blanks {bound left : Nat} {before held : Option Expr} {space text : List Char}
    (hb : isBlankText space = true)
    (answers : Answers good expr (resume bound (unary bound left) before held text) rest) :
    Answers good expr (resume bound (unary bound left) before held (space ++ text)) rest := by
  cases left with
  | zero =>
      refine of_error (fun hgood => ?_) rfl
      obtain ⟨last, hresult, -⟩ := answers.accepted hgood
      cases hresult
  | succ left =>
      have hsame : resume bound (unary bound (left + 1)) before held (space ++ text) =
          resume bound (unary bound (left + 1)) before held text := by
        rw [resume, resume, compareExpr, compareExpr, unary_blanks hb]
      rw [hsame]
      exact answers

end Answers

section Siblings

variable {bound : Nat}

/-- What is answered in front of siblings, behind `n` negations. -/
def InFront (bound : Nat) (nodes : List Node) : Prop :=
  ∀ (n left : Nat) (before held : Option Expr) (rest : List Char), Ended rest →
    (nots n ++ spelling.writeAfter false nodes ++ rest).length ≤ bound →
    Answers (Runs true (marks false nodes) ∧ GroupsOrdered nodes ∧ levelsBehind n nodes ≤ left)
      (start before held (notFirst n (conjunctions nodes)))
      (resume bound (unary bound left) before held (nots n ++ spelling.writeAfter false nodes ++ rest)) rest

/-- What is answered behind an operand, in front of siblings that follow it. -/
def Behind (bound : Nat) (nodes : List Node) : Prop :=
  ∀ (left : Nat) (before : Option Expr) (held : Expr) (last rest : List Char), Ended rest →
    skipBlanks last = skipBlanks (spelling.writeAfter true nodes ++ rest) → last.length ≤ bound →
    (spelling.writeAfter true nodes ++ rest).length ≤ bound →
    Answers (Runs false (marks true nodes) ∧ GroupsOrdered nodes ∧ levelsBehind 0 nodes ≤ left)
      (finish before held (conjunctions nodes)) (goOn bound (unary bound left) before held last) rest

/-- What is written behind an operand begins with no relation. -/
theorem unrelated_writeAfter (nodes : List Node) {rest : List Char} (ended : Ended rest) :
    Unrelated (spelling.writeAfter true nodes ++ rest) := by
  have symbol : ∀ {c : Char} {blanks tail : List Char}, c = '&' ∨ c = '|' → blanks = [' '] →
      Unrelated (blanks ++ c :: tail) := by
    rintro c blanks tail hc rfl
    exact unrelated_symbol hc (by decide) tail
  cases nodes with
  | nil => exact ended.closed.toUnrelated
  | cons node nodes =>
      cases node with
      | comparison | group => exact symbol (.inl rfl) rfl
      | connective label connective =>
          cases connective with
          | and => exact symbol (.inl rfl) rfl
          | or => exact symbol (.inr rfl) rfl
          | not => exact ⟨@apart_blanks [' '] _ Text.isBlankText_space (apart_cons (by decide)), rfl⟩

/-- An operand is answered in front of it when what follows is answered behind it. -/
theorem answers_operand {node : Node} {nodes : List Node}
    (operand : OperandReading bound (InOrder node) (operandLevels node) (spelling.write node)
      (operandTerm node))
    (behind : Behind bound nodes) (n left : Nat) (before held : Option Expr) (rest : List Char)
    (ended : Ended rest)
    (hbound : (nots n ++ spelling.write node ++ (spelling.writeAfter true nodes ++ rest)).length ≤ bound) :
    Answers (Runs false (marks true nodes) ∧ (InOrder node ∧ GroupsOrdered nodes) ∧
        max (n + operandLevels node) (levelsBehind 0 nodes) ≤ left)
      (start before held (prepend ((operandTerm node).notted n) (conjunctions nodes)))
      (resume bound (unary bound left) before held
        (nots n ++ spelling.write node ++ (spelling.writeAfter true nodes ++ rest))) rest := by
  have unrelated := unrelated_writeAfter nodes ended
  rw [start_prepend]
  by_cases h : InOrder node ∧ n + operandLevels node ≤ left
  · obtain ⟨last, hread, hlast⟩ := operand.reads unrelated hbound h.1 h.2
    have hresume : resume bound (unary bound left) before held
        (nots n ++ spelling.write node ++ (spelling.writeAfter true nodes ++ rest)) =
        goOn bound (unary bound left) before (attach .and held ((operandTerm node).notted n).expr) last := by
      rw [resume, hread]
      rfl
    have hshort := (compareExpr_sound (unary_sound bound left)).length_le hread
    have answers := behind left before (attach .and held ((operandTerm node).notted n).expr) last rest ended
      hlast (by omega) (by rw [List.length_append] at hbound; omega)
    rw [hresume]
    refine answers.congr ?_ fun _ => rfl
    rw [Nat.max_le]
    constructor
    · rintro ⟨runs, groups, enough⟩
      exact ⟨runs, ⟨h.1, groups⟩, h.2, enough⟩
    · rintro ⟨runs, ⟨-, groups⟩, -, enough⟩
      exact ⟨runs, groups, enough⟩
  · obtain ⟨stop, hstop⟩ := operand.refuses unrelated hbound h
    apply Answers.of_error _ (bind_error hstop _)
    rintro ⟨-, ⟨inOrder, -⟩, enough⟩
    exact h ⟨inOrder, Nat.le_trans (Nat.le_max_left _ _) enough⟩

/-- Where every number of levels is refused, it is so behind negations. -/
theorem refuses_nots {text : List Char} (h : ∀ left, Refuses (unary bound left) text) (n left : Nat) :
    Refuses (unary bound left) (nots n ++ text) := by
  induction n generalizing left with
  | zero => exact h left
  | succ n ih =>
      apply Refuses.space
      cases left with
      | zero => exact refuses_zero bound _
      | succ left => exact refuses_not (ih left).space

/-- Where no operand can begin, nothing good is in front. -/
theorem answers_nothing {good : Prop} {expr : Expr} {text rest : List Char} {before held : Option Expr}
    {n left : Nat} (bad : ¬ good) (h : ∀ left, Refuses (unary bound left) text) :
    Answers good expr (resume bound (unary bound left) before held (nots n ++ text)) rest := by
  obtain ⟨stop, hstop⟩ := (refuses_nots h n left).compareExpr
  exact .of_error bad (bind_error hstop _)

theorem inFront_nil : InFront bound [] := by
  intro n left before held rest ended _
  rw [List.append_assoc]
  refine answers_nothing (fun good => good.1) fun left => ?_
  rcases ended with rfl | ⟨behind, rfl⟩
  · exact refuses_nil
  · exact refuses_mark (.inr (.inr rfl)) behind

theorem behind_nil : Behind bound [] := by
  intro left before held last rest ended hlast _ _
  have closed := ended.closed
  rw [Spelling.writeAfter, List.nil_append] at hlast
  obtain ⟨after, hread, hafter⟩ := @goOn_end bound (unary bound left) before held last
    (by rw [hlast]; exact closed.noBoth) (by rw [hlast]; exact closed.noEither)
  exact ⟨fun _ => ⟨after, hread, hafter.trans hlast⟩,
    fun bad => absurd ⟨trivial, trivial, Nat.zero_le left⟩ bad⟩

section Connective

variable {label : Label} {nodes : List Node}

/-- A negation in front of a term is one more negation. -/
theorem inFront_not (inFront : InFront bound nodes) : InFront bound (.connective label .not :: nodes) := by
  intro n left before held rest ended hbound
  have htext : nots n ++ spelling.writeAfter false (.connective label .not :: nodes) ++ rest =
      nots (n + 1) ++ spelling.writeAfter false nodes ++ rest := by
    rw [← nots_append]
    rfl
  rw [htext] at hbound ⊢
  rw [groupsOrdered_connective]
  exact inFront (n + 1) left before held rest ended hbound

/-- No other connective stands in front of a term. -/
theorem inFront_symbol {connective : Connective} (symbol : connective = .and ∨ connective = .or) :
    InFront bound (.connective label connective :: nodes) := by
  intro n left before held rest _ _
  rw [List.append_assoc]
  rcases symbol with rfl | rfl
  · exact answers_nothing (fun good => good.1)
      fun left => (refuses_mark (.inl rfl) _).space
  · exact answers_nothing (fun good => good.1)
      fun left => (refuses_mark (.inr (.inl rfl)) _).space

/-- A negation behind an operand is left standing. -/
theorem behind_not : Behind bound (.connective label .not :: nodes) := by
  intro left before held last rest _ hlast _ _
  have hskip : skipBlanks last = '!' :: ' ' :: (spelling.writeAfter false nodes ++ rest) := hlast
  obtain ⟨after, hread, hafter⟩ := @goOn_end bound (unary bound left) before held last
    (by rw [hskip]; rfl) (by rw [hskip]; rfl)
  exact ⟨fun good => good.1.elim, fun _ => .inr ⟨_, after, _, hread, hafter.trans hskip⟩⟩

/-- An `&&` behind an operand leads in front of the next term. -/
theorem behind_and (inFront : InFront bound nodes) : Behind bound (.connective label .and :: nodes) := by
  intro left before held last rest ended hlast hshort hbound
  have hskip : skipBlanks last = '&' :: '&' :: ([' '] ++ (spelling.writeAfter false nodes ++ rest)) := hlast
  have hlength : (spelling.writeAfter false nodes ++ rest).length + 4 ≤ bound := hbound
  rw [goOn_both (unary_sound bound left) hshort hskip, groupsOrdered_connective]
  apply Answers.blanks (by decide)
  refine (inFront 0 left before (some held) rest ended ?_).congr Iff.rfl fun good => ?_
  · exact Nat.le_trans (Nat.le_add_right _ 4) hlength
  · exact (finish_both good.1).symm

/-- So does an `||`. -/
theorem behind_or (inFront : InFront bound nodes) : Behind bound (.connective label .or :: nodes) := by
  intro left before held last rest ended hlast hshort hbound
  have hskip : skipBlanks last = '|' :: '|' :: ([' '] ++ (spelling.writeAfter false nodes ++ rest)) := hlast
  have hlength : (spelling.writeAfter false nodes ++ rest).length + 4 ≤ bound := hbound
  rw [goOn_either (unary_sound bound left) hshort hskip, groupsOrdered_connective]
  apply Answers.blanks (by decide)
  refine (inFront 0 left (some (attach .or before held)) none rest ended ?_).congr Iff.rfl fun good => ?_
  · exact Nat.le_trans (Nat.le_add_right _ 4) hlength
  · obtain ⟨term, terms, others, h⟩ := conjunctions_of_runs good.1
    exact (finish_either before held _ term terms others h).symm

end Connective

section Operand

variable {node : Node} {nodes : List Node} (isOperand : node.isOperand = true)
  (operand : OperandReading bound (InOrder node) (operandLevels node) (spelling.write node) (operandTerm node))
  (behind : Behind bound nodes)

include isOperand operand behind

theorem inFront_operand : InFront bound (node :: nodes) := by
  intro n left before held rest ended hbound
  rw [writeAfter_operand isOperand] at hbound ⊢
  rw [marks_operand isOperand, levelsBehind_operand isOperand, conjunctions_operand isOperand,
    notFirst_prepend]
  simp only [Bool.false_eq_true, if_false, List.nil_append, ← List.append_assoc] at hbound ⊢
  rw [List.append_assoc (nots n ++ spelling.write node)] at hbound ⊢
  exact answers_operand operand behind n left before held rest ended hbound

/-- Behind an operand, another one stands behind an `&&`. -/
theorem behind_operand : Behind bound (node :: nodes) := by
  intro left before held last rest ended hlast hshort hbound
  rw [writeAfter_operand isOperand, if_pos rfl] at hlast hbound
  have hskip : skipBlanks last = '&' :: '&' :: ([' '] ++
      (nots 0 ++ spelling.write node ++ (spelling.writeAfter true nodes ++ rest))) := by
    rw [hlast, List.append_assoc, List.append_assoc]
    rfl
  rw [marks_operand isOperand, levelsBehind_operand isOperand, conjunctions_operand isOperand,
    goOn_both (unary_sound bound left) hshort hskip]
  apply Answers.blanks (by decide)
  have answers := answers_operand operand behind 0 left before (some held) rest ended (by
    simp only [List.length_append, List.length_cons, List.length_nil, nots] at hbound ⊢
    omega)
  refine answers.congr Iff.rfl fun _ => ?_
  rw [start_prepend, finish_prepend]
  rfl

end Operand

/-! ### Groups -/

/-- Siblings with nothing in front of them are answered by what they mean. -/
theorem InFront.alone {nodes : List Node} (inFront : InFront bound nodes) (left : Nat) {rest : List Char}
    (ended : Ended rest) (hbound : (spelling.writeAll nodes ++ rest).length ≤ bound) :
    Answers (Ordered nodes ∧ levels nodes ≤ left) (meaning nodes)
      (orExpr bound (unary bound left) (spelling.writeAll nodes ++ rest)) rest := by
  have answers := inFront 0 left none none rest ended hbound
  rw [orExpr_resume]
  refine answers.congr ?_ fun good => ?_
  · rw [Ordered, isSequence_iff_runs, and_assoc]
    exact Iff.rfl
  · obtain ⟨term, terms, others, hterms⟩ := conjunctions_of_runs good.1
    exact (disjunction_start hterms).symm

/-- A group is read where its children are in order and take fewer levels than are left. -/
theorem group_operand {label : Label} {children : List Node} (inFront : InFront bound children) :
    OperandReading bound (InOrder (.group label children)) (operandLevels (.group label children))
      (spelling.write (.group label children)) (operandTerm (.group label children)) := by
  have htext : ∀ rest, spelling.write (.group label children) ++ rest =
      '(' :: (spelling.writeAll children ++ ')' :: rest) := by
    intro rest
    rw [Spelling.write]
    simp [Spelling.writeAll]
  have reading : Reading bound (InOrder (.group label children)) (1 + levels children)
      (spelling.write (.group label children)) (meaning children) := by
    constructor
    · intro left rest _ hbound ordered enough
      rw [htext] at hbound
      cases left with
      | zero => omega
      | succ left =>
          have answers := inFront.alone left (.inr ⟨rest, rfl⟩) (Nat.le_trans (Nat.le_succ _) hbound)
          obtain ⟨last, hread, hlast⟩ := answers.accepted ⟨ordered, by omega⟩
          have leaves : Leaves (orExpr bound (unary bound left)) (spelling.writeAll children)
              (meaning children) ([] ++ ')' :: rest) := ⟨last, hread, hlast⟩
          refine ⟨rest, ?_, rfl⟩
          rw [htext, unary_open]
          exact group_leaves leaves rfl
    · intro left rest _ hbound bad
      rw [htext] at hbound ⊢
      cases left with
      | zero => exact refuses_zero bound _
      | succ left =>
          have answers := inFront.alone left (.inr ⟨rest, rfl⟩) (Nat.le_trans (Nat.le_succ _) hbound)
          apply refuses_group
          rcases answers.refused fun good => bad ⟨good.1, by omega⟩ with
            ⟨stop, hstop⟩ | ⟨other, last, after, hread, hlast⟩
          · exact .inl ⟨stop, hstop⟩
          · exact .inr ⟨other, last, '!', after, hread, hlast, by decide⟩
  have operand : OperandReading bound (InOrder (.group label children)) (1 + levels children)
      (spelling.write (.group label children) ++ Check.behind none) (operandTerm (.group label children)) :=
    .of_reading reading .nothing
  rw [Check.behind, List.append_nil] at operand
  exact operand

/-! ### Trees -/

mutual

/-- Clean operands are read as their terms. -/
theorem node_operand (bound : Nat) : ∀ {node : Node}, CleanNode node → node.isOperand = true →
    OperandReading bound (InOrder node) (operandLevels node) (spelling.write node) (operandTerm node)
  | .comparison _ _, clean, _ => clean.operand bound
  | .group _ _, clean, _ => group_operand (siblings_answer bound clean).1
  | .connective _ _, _, operand => nomatch operand

/-- Clean siblings are answered in front of them and behind an operand. -/
theorem siblings_answer (bound : Nat) : ∀ {nodes : List Node}, Clean nodes →
    InFront bound nodes ∧ Behind bound nodes
  | [], _ => ⟨inFront_nil, behind_nil⟩
  | .connective _ .not :: _, clean => ⟨inFront_not (siblings_answer bound clean.2).1, behind_not⟩
  | .connective _ .and :: _, clean => ⟨inFront_symbol (.inl rfl), behind_and (siblings_answer bound clean.2).1⟩
  | .connective _ .or :: _, clean => ⟨inFront_symbol (.inr rfl), behind_or (siblings_answer bound clean.2).1⟩
  | .comparison label comparison :: _, clean =>
      have operand := @node_operand bound (.comparison label comparison) clean.1 rfl
      have behind := (siblings_answer bound clean.2).2
      ⟨inFront_operand rfl operand behind, behind_operand rfl operand behind⟩
  | .group label children :: _, clean =>
      have operand := @node_operand bound (.group label children) clean.1 rfl
      have behind := (siblings_answer bound clean.2).2
      ⟨inFront_operand rfl operand behind, behind_operand rfl operand behind⟩

end

end Siblings

end FilterTree.Predicate
