/-
Module: FilterTree.Proofs.Tree.Splicing
Layer: Proofs
Purpose: Siblings that are cut in two, and a group that gives its place to its children. Where siblings may be
  cut, in front of a term or behind one, the order, the levels and the terms of the whole are those of the
  parts. So a group whose neighbours are connectives can be replaced by its children: the tree stays in order
  and takes no more levels than before.
Imports: FilterTree.Proofs.Tree.Siblings
Main exports: Predicate.Spans, Predicate.ordered_iff, Predicate.glue, Predicate.Spans.conjunctions_append,
  Predicate.Unwraps, Predicate.Unwraps.clean, Predicate.Unwraps.ordered, Predicate.Unwraps.levels_le
-/
import FilterTree.Proofs.Tree.Siblings

namespace FilterTree.Predicate

/-! ### Siblings from one place to another -/

/-- The connectives that stand between two terms. -/
def Joins (connective : Connective) : Prop :=
  connective = .and ∨ connective = .or

/-- Siblings go on rightly from one place to another, of which each is in front of a term or right behind one.
    No negation at the end is left without its operand. -/
inductive Spans : Bool → List Node → Bool → Prop where
  | nothing (behind : Bool) : Spans behind [] behind
  | operand {behind last : Bool} {node : Node} {rest : List Node} (operand : node.isOperand = true)
      (others : Spans true rest last) : Spans behind (node :: rest) last
  | not {last : Bool} {label : Label} {rest : List Node} (negated : rest ≠ []) (others : Spans false rest last) :
      Spans false (.connective label .not :: rest) last
  | joint {last : Bool} {label : Label} {connective : Connective} {rest : List Node}
      (joins : Joins connective) (others : Spans false rest last) :
      Spans true (.connective label connective :: rest) last

variable {behind middle last : Bool} {first rest : List Node}

/-- One stretch of siblings behind another one. -/
theorem Spans.append (head : Spans behind first middle) (tail : Spans middle rest last) :
    Spans behind (first ++ rest) last := by
  induction head with
  | nothing => exact tail
  | operand operand _ ih => exact .operand operand (ih tail)
  | not negated _ ih => exact .not (List.append_ne_nil_of_left_ne_nil negated rest) (ih tail)
  | joint joins _ ih => exact .joint joins (ih tail)

/-- Behind an operand the siblings go on from behind it. -/
theorem Spans.behind_operand {node : Node} (operand : node.isOperand = true)
    (spans : Spans behind (node :: rest) last) : Spans true rest last := by
  cases spans with
  | operand _ others => exact others
  | not | joint => cases operand

/-- A negation stands in front of a term, and so does what follows it. -/
theorem Spans.behind_not {label : Label} (spans : Spans behind (.connective label .not :: rest) last) :
    behind = false ∧ Spans false rest last := by
  cases spans with
  | operand operand => cases operand
  | not _ others => exact ⟨rfl, others⟩
  | joint joins => rcases joins with h | h <;> cases h

/-- A connective that joins stands behind a term and leads in front of the next one. -/
theorem Spans.behind_joint {label : Label} {connective : Connective} (joins : Joins connective)
    (spans : Spans behind (.connective label connective :: rest) last) :
    behind = true ∧ Spans false rest last := by
  cases spans with
  | operand operand => cases operand
  | not => rcases joins with h | h <;> cases h
  | joint _ others => exact ⟨rfl, others⟩

/-- Siblings can be cut behind a connective that joins. -/
theorem Spans.split {label : Label} {connective : Connective} (joins : Joins connective)
    (spans : Spans behind (first ++ .connective label connective :: rest) last) :
    Spans behind (first ++ [.connective label connective]) false ∧ Spans false rest last := by
  induction first generalizing behind with
  | nil =>
      obtain ⟨rfl, others⟩ := spans.behind_joint joins
      exact ⟨.joint joins (.nothing false), others⟩
  | cons node first ih =>
      cases spans with
      | operand operand others => exact ⟨.operand operand (ih others).1, (ih others).2⟩
      | not _ others => exact ⟨.not (by simp) (ih others).1, (ih others).2⟩
      | joint joins others => exact ⟨.joint joins (ih others).1, (ih others).2⟩

/-- One operand may stand in the place of another one. -/
theorem Spans.exchange {node other : Node} (operand : node.isOperand = true) (another : other.isOperand = true)
    (spans : Spans behind (first ++ node :: rest) last) : Spans behind (first ++ other :: rest) last := by
  induction first generalizing behind with
  | nil => exact .operand another (spans.behind_operand operand)
  | cons sibling first ih =>
      cases spans with
      | operand operand others => exact .operand operand (ih others)
      | not _ others => exact .not (by simp) (ih others)
      | joint joins others => exact .joint joins (ih others)

/-- Siblings that go on to behind a term have one. -/
theorem Spans.ne_nil (spans : Spans false rest true) : rest ≠ [] := by
  rintro rfl
  cases spans

/-- Siblings go on to behind a term exactly where their marks go on rightly to the end. -/
theorem runs_iff_spans : ∀ (behind : Bool) (nodes : List Node),
    Runs (!behind) (marks behind nodes) ↔ Spans behind nodes true
  | true, [] => iff_of_true trivial (.nothing true)
  | false, [] => iff_of_false id (nomatch ·)
  | false, .connective _ .not :: rest =>
      (runs_iff_spans false rest).trans ⟨fun spans => .not spans.ne_nil spans, fun spans => spans.behind_not.2⟩
  | true, .connective _ .not :: _ => iff_of_false id fun spans => Bool.noConfusion spans.behind_not.1
  | true, .connective _ .and :: rest =>
      (runs_iff_spans false rest).trans ⟨.joint (.inl rfl), fun spans => (spans.behind_joint (.inl rfl)).2⟩
  | false, .connective _ .and :: _ => iff_of_false id fun spans => Bool.noConfusion (spans.behind_joint (.inl rfl)).1
  | true, .connective _ .or :: rest =>
      (runs_iff_spans false rest).trans ⟨.joint (.inr rfl), fun spans => (spans.behind_joint (.inr rfl)).2⟩
  | false, .connective _ .or :: _ => iff_of_false id fun spans => Bool.noConfusion (spans.behind_joint (.inr rfl)).1
  | true, .comparison _ _ :: rest | false, .comparison _ _ :: rest | true, .group _ _ :: rest
  | false, .group _ _ :: rest =>
      (runs_iff_spans true rest).trans ⟨.operand rfl, .behind_operand rfl⟩

/-- Siblings are ordered when they go on to behind their last term and the groups among them are in order. -/
theorem ordered_iff {nodes : List Node} : Ordered nodes ↔ Spans false nodes true ∧ GroupsOrdered nodes := by
  rw [Ordered, isSequence_iff_runs, ← runs_iff_spans]
  exact Iff.rfl

/-! ### What is said of each sibling -/

theorem clean_append (first rest : List Node) : Clean (first ++ rest) ↔ Clean first ∧ Clean rest := by
  induction first with
  | nil => rw [List.nil_append, Clean, true_and]
  | cons node first ih => rw [List.cons_append, Clean, Clean, ih, and_assoc]

theorem groupsOrdered_append (first rest : List Node) :
    GroupsOrdered (first ++ rest) ↔ GroupsOrdered first ∧ GroupsOrdered rest := by
  induction first with
  | nil => rw [List.nil_append, GroupsOrdered, true_and]
  | cons node first ih => rw [List.cons_append, GroupsOrdered, GroupsOrdered, ih, and_assoc]

/-! ### Levels -/

/-- A connective that joins takes no level, and none of the negations before it counts behind it. -/
theorem levelsBehind_joint {label : Label} {connective : Connective} (joins : Joins connective) (n : Nat)
    (rest : List Node) :
    levelsBehind n (.connective label connective :: rest) = levelsBehind 0 rest := by
  rcases joins with rfl | rfl <;> rfl

/-- Siblings in two parts take the levels of the part that takes more. -/
theorem Spans.levelsBehind_append (head : Spans behind first middle) (rest : List Node) {n : Nat}
    (settled : first = [] → n = 0) :
    levelsBehind n (first ++ rest) = max (levelsBehind n first) (levelsBehind 0 rest) := by
  induction head generalizing n with
  | nothing => rw [settled rfl, List.nil_append, levelsBehind, Nat.zero_max]
  | operand operand _ ih =>
      rw [List.cons_append, levelsBehind_operand operand, levelsBehind_operand operand, ih fun _ => rfl,
        Nat.max_assoc]
  | not negated _ ih => exact ih fun empty => absurd empty negated
  | joint joins _ ih =>
      rw [List.cons_append, levelsBehind_joint joins, levelsBehind_joint joins, ih fun _ => rfl]

/-- An operand that takes no more levels than another one may stand in its place. -/
theorem levelsBehind_exchange {node other : Node} (operand : node.isOperand = true)
    (another : other.isOperand = true) (fewer : operandLevels other ≤ operandLevels node) (first rest : List Node)
    (n : Nat) : levelsBehind n (first ++ other :: rest) ≤ levelsBehind n (first ++ node :: rest) := by
  induction first generalizing n with
  | nil =>
      rw [List.nil_append, List.nil_append, levelsBehind_operand operand, levelsBehind_operand another]
      omega
  | cons sibling first ih =>
      cases sibling with
      | connective label connective => cases connective <;> exact ih _
      | comparison label comparison =>
          have := ih 0
          rw [List.cons_append, List.cons_append, levelsBehind_operand rfl, levelsBehind_operand rfl]
          omega
      | group label children =>
          have := ih 0
          rw [List.cons_append, List.cons_append, levelsBehind_operand rfl, levelsBehind_operand rfl]
          omega

/-! ### Terms -/

/-- Conjunctions in two parts, where the last one of the first part goes on in the second. -/
def glue : List (List Term) → List (List Term) → List (List Term)
  | [], others => others
  | [terms], others => terms.foldr prepend others
  | terms :: next :: more, others => terms :: glue (next :: more) others

/-- Terms in front of a conjunction are one conjunction with it. -/
theorem foldr_prepend (held terms : List Term) (others : List (List Term)) :
    held.foldr prepend (terms :: others) = (held ++ terms) :: others := by
  induction held with
  | nil => rfl
  | cons term held ih => rw [List.foldr_cons, ih, prepend, List.cons_append]

/-- A term in front of the first part is one in front of the whole. -/
theorem glue_prepend (term : Term) (terms : List Term) (more others : List (List Term)) :
    glue (prepend term (terms :: more)) others = prepend term (glue (terms :: more) others) := by
  cases more <;> rfl

/-- Siblings have a first conjunction, which may hold nothing yet. -/
theorem exists_conjunctions : ∀ nodes : List Node, ∃ terms others, conjunctions nodes = terms :: others
  | [] => ⟨[], [], rfl⟩
  | .connective _ .not :: rest => by
      obtain ⟨terms, others, hrest⟩ := exists_conjunctions rest
      cases terms with
      | nil => exact ⟨[], others, by rw [conjunctions, hrest]; rfl⟩
      | cons term terms => exact ⟨term.negated :: terms, others, by rw [conjunctions, hrest, negateFirst]⟩
  | .connective _ .and :: rest => exists_conjunctions rest
  | .connective _ .or :: rest => ⟨[], conjunctions rest, rfl⟩
  | .comparison _ _ :: rest => by
      rw [conjunctions_operand rfl]
      cases conjunctions rest <;> exact ⟨_, _, rfl⟩
  | .group _ _ :: rest => by
      rw [conjunctions_operand rfl]
      cases conjunctions rest <;> exact ⟨_, _, rfl⟩

/-- In front of a term, the first conjunction begins with it. -/
theorem Spans.exists_term : ∀ {last : Bool} {first : List Node}, Spans false first last → first ≠ [] →
    ∃ term terms others, conjunctions first = prepend term (terms :: others)
  | _, _, .nothing _, nonempty => absurd rfl nonempty
  | _, _ :: rest, .operand hnode _, _ => by
      obtain ⟨terms, others, hrest⟩ := exists_conjunctions rest
      exact ⟨_, terms, others, by rw [conjunctions_operand hnode, hrest]⟩
  | _, _, .not negated behindNot, _ => by
      obtain ⟨term, terms, others, hrest⟩ := behindNot.exists_term negated
      exact ⟨term.negated, terms, others, by rw [conjunctions, hrest, negateFirst_prepend]⟩

/-- The terms of siblings in two parts are those of the parts. -/
theorem Spans.conjunctions_append (head : Spans behind first middle) (rest : List Node) :
    conjunctions (first ++ rest) = glue (conjunctions first) (conjunctions rest) := by
  induction head with
  | nothing => rfl
  | @operand _ _ _ others operand _ ih =>
      obtain ⟨terms, more, hothers⟩ := exists_conjunctions others
      rw [List.cons_append, conjunctions_operand operand, conjunctions_operand operand, ih, hothers, glue_prepend]
  | not negated behindNot ih =>
      obtain ⟨term, terms, more, hothers⟩ := behindNot.exists_term negated
      rw [List.cons_append, conjunctions, conjunctions, ih, hothers, glue_prepend, negateFirst_prepend,
        negateFirst_prepend, glue_prepend]
  | @joint _ _ _ others joins _ ih =>
      rcases joins with rfl | rfl
      · exact ih
      · obtain ⟨terms, more, hothers⟩ := exists_conjunctions others
        rw [List.cons_append, conjunctions, conjunctions, ih, hothers, glue]

/-- Siblings without an `||` are one conjunction. -/
theorem conjunctions_single : ∀ {nodes : List Node}, (∀ label, .connective label .or ∉ nodes) →
    ∃ terms, conjunctions nodes = [terms]
  | [], _ => ⟨[], rfl⟩
  | node :: rest, noEither => by
      obtain ⟨terms, hrest⟩ := @conjunctions_single rest fun label h => noEither label (List.mem_cons_of_mem _ h)
      cases node with
      | comparison | group => exact ⟨_, by rw [conjunctions_operand rfl, hrest, prepend]⟩
      | connective label connective =>
          cases connective with
          | and => exact ⟨terms, hrest⟩
          | or => exact absurd List.mem_cons_self (noEither label)
          | not =>
              rw [conjunctions, hrest]
              cases terms <;> exact ⟨_, rfl⟩

/-- Between the siblings around an `||` one conjunction ends and another one begins. -/
theorem conjunctions_or (label : Label) (rest first : List Node) :
    conjunctions (first ++ .connective label .or :: rest) = conjunctions first ++ conjunctions rest := by
  induction first with
  | nil => rfl
  | cons node first ih =>
      obtain ⟨terms, others, hfirst⟩ := exists_conjunctions first
      cases node with
      | comparison | group =>
          rw [List.cons_append, conjunctions_operand rfl, conjunctions_operand rfl, ih, hfirst]
          rfl
      | connective own connective =>
          cases connective with
          | and => exact ih
          | or => exact congrArg ([] :: ·) ih
          | not =>
              rw [List.cons_append, conjunctions, conjunctions, ih, hfirst]
              cases terms <;> rfl

/-! ### Dropping parentheses -/

/-- Siblings end with a connective of some kind, or there are none. -/
inductive EndsWith (allowed : Connective → Prop) : List Node → Prop where
  | nothing : EndsWith allowed []
  | connective (front : List Node) (label : Label) {connective : Connective} (fits : allowed connective) :
      EndsWith allowed (front ++ [.connective label connective])

/-- Siblings begin with a connective of some kind, or there are none. -/
inductive BeginsWith (allowed : Connective → Prop) : List Node → Prop where
  | nothing : BeginsWith allowed []
  | connective (label : Label) {connective : Connective} (fits : allowed connective) (back : List Node) :
      BeginsWith allowed (.connective label connective :: back)

/-- One group, at any depth, gives its place to its children. Its neighbours are connectives that join, or there
    are none; and its children have no `||` between them, or neither of its neighbours is an `&&`. -/
inductive Unwraps : List Node → List Node → Prop where
  | here {front children back : List Node} {label : Label} (before : EndsWith Joins front)
      (behind : BeginsWith Joins back)
      (loose : (∀ own, .connective own .or ∉ children) ∨
        EndsWith (· = .or) front ∧ BeginsWith (· = .or) back) :
      Unwraps (front ++ .group label children :: back) (front ++ (children ++ back))
  | inside {children flat : List Node} (front back : List Node) (label : Label)
      (deeper : Unwraps children flat) :
      Unwraps (front ++ .group label children :: back) (front ++ .group label flat :: back)

/-- Siblings can be cut behind a connective that joins and ends their first part. -/
theorem EndsWith.split {front : List Node} (before : EndsWith Joins front)
    (spans : Spans false (front ++ rest) last) : Spans false front false ∧ Spans false rest last := by
  cases before with
  | nothing => exact ⟨.nothing false, spans⟩
  | connective front label joins =>
      rw [List.append_assoc] at spans
      exact spans.split joins

/-- Behind an `||`, or behind nothing, siblings have conjunctions of their own. -/
theorem EndsWith.conjunctions_append {front : List Node} (before : EndsWith (· = .or) front) :
    ∃ earlier, ∀ rest, conjunctions (front ++ rest) = earlier ++ conjunctions rest := by
  cases before with
  | nothing => exact ⟨[], fun _ => rfl⟩
  | connective front label either =>
      subst either
      refine ⟨conjunctions front, fun rest => ?_⟩
      rw [List.append_assoc]
      exact conjunctions_or label rest front

/-- In front of an `||`, or of nothing, siblings have conjunctions of their own. -/
theorem BeginsWith.conjunctions_append {back : List Node} (behind : BeginsWith (· = .or) back) :
    ∃ later, ∀ first, conjunctions (first ++ back) = conjunctions first ++ later := by
  cases behind with
  | nothing => exact ⟨[], fun first => by rw [List.append_nil, List.append_nil]⟩
  | connective label either back =>
      subst either
      exact ⟨conjunctions back, conjunctions_or label back⟩

section Parts

variable {front children back : List Node} {label : Label}

/-- The children of a group among ordered siblings are ordered. -/
theorem ordered_children (ordered : Ordered (front ++ .group label children :: back)) : Ordered children := by
  have groups := ordered.2
  rw [groupsOrdered_append] at groups
  exact groups.2.1

/-- Where a group may be cut off from the siblings in front of it, they come to its front, and the siblings
    behind it go on from behind it. -/
theorem spans_parts (before : EndsWith Joins front)
    (ordered : Ordered (front ++ .group label children :: back)) :
    Spans false front false ∧ Spans true back true :=
  have parts := before.split (ordered_iff.mp ordered).1
  ⟨parts.1, parts.2.behind_operand rfl⟩

end Parts

namespace Unwraps

variable {nodes flat : List Node}

/-- A clean tree stays clean. -/
theorem clean (unwraps : Unwraps nodes flat) (clean : Clean nodes) : Clean flat := by
  induction unwraps with
  | here =>
      simp only [clean_append, Clean, CleanNode] at clean ⊢
      exact clean
  | inside front back label _ ih =>
      simp only [clean_append, Clean, CleanNode] at clean ⊢
      exact ⟨clean.1, ih clean.2.1, clean.2.2⟩

/-- A tree in order stays in order. -/
theorem ordered (unwraps : Unwraps nodes flat) (ordered : Ordered nodes) : Ordered flat := by
  induction unwraps with
  | here before =>
      obtain ⟨head, tail⟩ := spans_parts before ordered
      have inner := ordered_children ordered
      have groups := ordered.2
      rw [ordered_iff] at inner ⊢
      simp only [groupsOrdered_append, GroupsOrdered] at groups ⊢
      exact ⟨head.append (inner.1.append tail), groups.1, inner.2, groups.2.2⟩
  | inside front back label _ ih =>
      have inner := ih (ordered_children ordered)
      have groups := ordered.2
      simp only [groupsOrdered_append, GroupsOrdered] at groups
      rw [ordered_iff, groupsOrdered_append]
      exact ⟨(ordered_iff.mp ordered).1.exchange rfl rfl, groups.1, inner, groups.2.2⟩

/-- No place takes more levels than before. -/
theorem levels_le (unwraps : Unwraps nodes flat) (ordered : Ordered nodes) : levels flat ≤ levels nodes := by
  induction unwraps with
  | @here front children back label before =>
      obtain ⟨head, -⟩ := spans_parts before ordered
      have inner := (ordered_iff.mp (ordered_children ordered)).1
      have group : operandLevels (.group label children) = 1 + levelsBehind 0 children := rfl
      rw [levels, levels, head.levelsBehind_append _ fun _ => rfl, head.levelsBehind_append _ fun _ => rfl,
        inner.levelsBehind_append _ fun _ => rfl, levelsBehind_operand rfl, group]
      omega
  | @inside children flat front back label _ ih =>
      have fewer : operandLevels (.group label flat) ≤ operandLevels (.group label children) :=
        Nat.add_le_add_left (ih (ordered_children ordered)) 1
      exact levelsBehind_exchange rfl rfl fewer front back 0

end Unwraps

end FilterTree.Predicate
