/-
Module: FilterTree.Proofs.Grammar.Nesting
Layer: Proofs
Purpose: How deep a text may nest. The nesting of tokens is counted off the tokens alone, as the most parentheses
  and negations around one scalar or path. Tokens that derive an expression within any number of levels derive it
  with one level more than their nesting, and with no fewer. A parser that has fewer left stops at the first
  place that is too deep, and at no other: what stands beside that place is read as ever.
Imports: FilterTree.Proofs.Grammar.Completeness
Main exports: nesting, Grammar.Disjunction.derives_iff, TooDeep, disjunction_tooDeep, parse_of_nesting
-/
import FilterTree.Proofs.Grammar.Completeness

namespace FilterTree.Predicate

open Text (skipBlanks isBlankText)

/-!
### Nesting

A parenthesis stands around the tokens up to the one that closes it, those of a call included; a negation stands
around the primary behind it. The name of a function stands around nothing, but its parenthesis does.
-/

/-- The most parentheses and negations around a scalar or a path among some tokens, of which `base` are around
    all of them and `bangs` negations stand right in front. `outside` holds, for each parenthesis that is open,
    what stands around the parenthesis itself. -/
def deepest (outside : List Nat) (base bangs : Nat) : List Token → Nat
  | [] => 0
  | .bang :: rest => deepest outside base (bangs + 1) rest
  | .openParen :: rest => deepest (base :: outside) (base + bangs + 1) 0 rest
  | .closeParen :: rest => deepest outside.tail (outside.headD 0) 0 rest
  | .scalar _ :: rest => max (base + bangs) (deepest outside base 0 rest)
  | .path _ :: rest => max (base + bangs) (deepest outside base 0 rest)
  | _ :: rest => deepest outside base bangs rest

/-- The most parentheses, arguments of calls and negations around one scalar or path. -/
def nesting (tokens : List Token) : Nat :=
  deepest [] 0 0 tokens

/-- In every place the tokens add `count` to what stands around them, and leave it as it was. -/
def Counts (tokens : List Token) (count : Nat) : Prop :=
  ∀ outside base rest,
    deepest outside base 0 (tokens ++ rest) = max (base + count) (deepest outside base 0 rest)

/-- The same of tokens that negations may stand in front of. -/
def CountsNegated (tokens : List Token) (count : Nat) : Prop :=
  ∀ outside base bangs rest,
    deepest outside base bangs (tokens ++ rest) = max (base + bangs + count) (deepest outside base 0 rest)

theorem CountsNegated.counts {tokens : List Token} {count : Nat} (h : CountsNegated tokens count) :
    Counts tokens count :=
  fun outside base rest => h outside base 0 rest

/-- What tokens add everywhere is their nesting. -/
theorem Counts.nesting_eq {tokens : List Token} {count : Nat} (h : Counts tokens count) :
    nesting tokens = count := by
  have alone := h [] 0 []
  rw [List.append_nil] at alone
  rw [nesting, alone, deepest]
  omega

/-- Whether a token stands between expressions and around none. -/
def Token.joins : Token → Bool
  | .comma => true
  | .both => true
  | .either => true
  | .relation _ => true
  | _ => false

/-- Side by side, the deeper one counts. -/
theorem Counts.beside {before after : List Token} {token : Token} {m n : Nat} (joins : token.joins = true)
    (left : Counts before m) (right : Counts after n) : Counts (before ++ token :: after) (max m n) := by
  intro outside base rest
  have joint : deepest outside base 0 (token :: (after ++ rest)) = deepest outside base 0 (after ++ rest) := by
    cases token with
    | comma | both | either | relation => rfl
    | openParen | closeParen | bang | scalar | path | function => cases joins
  rw [List.append_assoc, List.cons_append, left, joint, right]
  omega

/-- A negation adds one. -/
theorem CountsNegated.not {tokens : List Token} {count : Nat} (h : CountsNegated tokens count) :
    CountsNegated (.bang :: tokens) (count + 1) := by
  intro outside base bangs rest
  rw [List.cons_append, deepest, h]
  omega

/-- Parentheses add one, and what stands behind them stands where they stood. -/
theorem Counts.group {tokens : List Token} {count : Nat} (h : Counts tokens count) :
    CountsNegated (.openParen :: (tokens ++ [.closeParen])) (count + 1) := by
  intro outside base bangs rest
  rw [List.cons_append, deepest, List.append_assoc, h]
  show max _ (deepest outside base 0 rest) = _
  omega

/-- The name of a function in front of its parentheses adds nothing. -/
theorem Counts.call {tokens : List Token} {count : Nat} (function : Function) (h : Counts tokens count) :
    CountsNegated (.function function :: .openParen :: (tokens ++ [.closeParen])) (count + 1) :=
  h.group

/-- A scalar or a path by itself adds nothing. -/
theorem countsNegated_leaf {token : Token}
    (leaf : (∃ value, token = .scalar value) ∨ ∃ steps, token = .path steps) : CountsNegated [token] 0 := by
  intro outside base bangs rest
  rcases leaf with ⟨value, rfl⟩ | ⟨steps, rfl⟩ <;> rfl

/-! ### Levels and nesting -/

namespace Grammar

mutual

/-- A derivation nests less than it has levels, and one level more than its nesting is enough for it. -/
theorem Disjunction.nests : ∀ {levels : Nat} {tokens : List Token} {expr : Expr},
    Disjunction levels tokens expr →
      ∃ count, Counts tokens count ∧ count < levels ∧ Disjunction (count + 1) tokens expr
  | _, _, _, .single conjunction => by
      obtain ⟨count, counts, within, derives⟩ := conjunction.nests
      exact ⟨count, counts, within, .single derives⟩
  | _, _, _, .join disjunction conjunction => by
      obtain ⟨m, first, withinFirst, left⟩ := disjunction.nests
      obtain ⟨n, second, withinSecond, right⟩ := conjunction.nests
      exact ⟨max m n, first.beside rfl second, by omega, .join (left.mono (by omega)) (right.mono (by omega))⟩

theorem Conjunction.nests : ∀ {levels : Nat} {tokens : List Token} {expr : Expr},
    Conjunction levels tokens expr →
      ∃ count, Counts tokens count ∧ count < levels ∧ Conjunction (count + 1) tokens expr
  | _, _, _, .single compared => by
      obtain ⟨count, counts, within, derives⟩ := compared.nests
      exact ⟨count, counts, within, .single derives⟩
  | _, _, _, .join conjunction compared => by
      obtain ⟨m, first, withinFirst, left⟩ := conjunction.nests
      obtain ⟨n, second, withinSecond, right⟩ := compared.nests
      exact ⟨max m n, first.beside rfl second, by omega, .join (left.mono (by omega)) (right.mono (by omega))⟩

theorem Compared.nests : ∀ {levels : Nat} {tokens : List Token} {expr : Expr},
    Compared levels tokens expr →
      ∃ count, Counts tokens count ∧ count < levels ∧ Compared (count + 1) tokens expr
  | _, _, _, .single unary => by
      obtain ⟨count, counts, within, derives⟩ := unary.nests
      exact ⟨count, counts.counts, within, .single derives⟩
  | _, _, _, .related relation first second => by
      obtain ⟨m, countsFirst, withinFirst, left⟩ := first.nests
      obtain ⟨n, countsSecond, withinSecond, right⟩ := second.nests
      exact ⟨max m n, countsFirst.counts.beside rfl countsSecond.counts, by omega,
        .related relation (left.mono (by omega)) (right.mono (by omega))⟩

theorem Unary.nests : ∀ {levels : Nat} {tokens : List Token} {expr : Expr},
    Unary levels tokens expr →
      ∃ count, CountsNegated tokens count ∧ count < levels ∧ Unary (count + 1) tokens expr
  | _, _, _, .not unary => by
      obtain ⟨count, counts, within, derives⟩ := unary.nests
      exact ⟨count + 1, counts.not, by omega, .not derives⟩
  | _, _, _, .primary primary => by
      obtain ⟨count, counts, within, derives⟩ := primary.nests
      exact ⟨count, counts, by omega, .primary derives⟩

/-- A primary takes no level for itself: its unary took it. -/
theorem Primary.nests : ∀ {levels : Nat} {tokens : List Token} {expr : Expr},
    Primary levels tokens expr →
      ∃ count, CountsNegated tokens count ∧ count ≤ levels ∧ Primary count tokens expr
  | _, _, _, .group inner => by
      obtain ⟨count, counts, within, derives⟩ := inner.nests
      exact ⟨count + 1, counts.group, within, .group derives⟩
  | _, _, _, .scalar value => ⟨0, countsNegated_leaf (.inl ⟨value, rfl⟩), Nat.zero_le _, .scalar value⟩
  | _, _, _, .path steps => ⟨0, countsNegated_leaf (.inr ⟨steps, rfl⟩), Nat.zero_le _, .path steps⟩
  | _, _, _, @Primary.call _ function _ _ arguments arity => by
      obtain ⟨count, counts, within, derives⟩ := arguments.nests
      exact ⟨count + 1, counts.call function, within, .call derives arity⟩

theorem Arguments.nests : ∀ {levels : Nat} {tokens : List Token} {args : List Expr},
    Arguments levels tokens args →
      ∃ count, Counts tokens count ∧ count < levels ∧ Arguments (count + 1) tokens args
  | _, _, _, .single inner => by
      obtain ⟨count, counts, within, derives⟩ := inner.nests
      exact ⟨count, counts, within, .single derives⟩
  | _, _, _, .more inner rest => by
      obtain ⟨m, first, withinFirst, left⟩ := inner.nests
      obtain ⟨n, second, withinSecond, right⟩ := rest.nests
      exact ⟨max m n, first.beside rfl second, by omega, .more (left.mono (by omega)) (right.mono (by omega))⟩

end

/-- What derives an expression at all derives it within exactly the levels that are more than its nesting. -/
theorem Disjunction.derives_iff {levels others : Nat} {tokens : List Token} {expr : Expr}
    (h : Disjunction levels tokens expr) : Disjunction others tokens expr ↔ nesting tokens < others := by
  constructor
  · intro derives
    obtain ⟨count, counts, within, -⟩ := derives.nests
    rw [counts.nesting_eq]
    exact within
  · intro enough
    obtain ⟨count, counts, -, derives⟩ := h.nests
    rw [counts.nesting_eq] at enough
    exact derives.mono enough

end Grammar

/-! ### Places that are too deep -/

/-- Reading stopped at a place that takes more levels than are left. -/
def TooDeep {α : Type} (result : Except Stop α) : Prop :=
  ∃ place, result = .error (.at .tooDeep place)

/-- What stops at such a place goes no further. -/
theorem TooDeep.bind {α β : Type} {result : Except Stop α} (h : TooDeep result) (f : α → Except Stop β) :
    TooDeep (result >>= f) := by
  obtain ⟨place, hplace⟩ := h
  exact ⟨place, bind_error hplace f⟩

/-- A chain that arrives at an operand stops where the operand does. -/
theorem Arrives.tooDeep {join : Expr → Expr → Expr} {operand parser : Parser} {a blanks b rest : List Char}
    {left : Expr} {s : Char} {tail : List Char} (blank : isBlankText blanks = true)
    (solid : Text.isBlank s = false)
    (arrives : Arrives join (s :: tail) operand parser a left (blanks ++ ((s :: tail) ++ (b ++ rest))))
    (stuck : TooDeep (operand (b ++ rest))) :
    TooDeep (parser (a ++ (blanks ++ ((s :: tail) ++ (b ++ rest))))) := by
  obtain ⟨bound, last, hchain, hlast, hlength⟩ := arrives
  rw [Text.skipBlanks_append blank, List.cons_append, Text.skipBlanks_cons solid] at hlast
  have hlong := Text.length_skipBlanks_le last
  rw [hlast, List.length_cons] at hlong
  cases bound with
  | zero => omega
  | succ bound =>
      rw [hchain, chain, hlast, ← List.cons_append, stripPrefix?_append]
      exact stuck.bind _

/-- On tokens that nest at least `most`, the parser stops for that, whatever follows their layout. -/
def StopsDeep (bound most : Nat) (tokens : List Token) (parser : Parser) : Prop :=
  ∀ {text rest : List Char}, Layout tokens text → (text ++ rest).length ≤ bound → most ≤ nesting tokens →
    TooDeep (parser (text ++ rest))

section Steps

variable {bound most levels others : Nat} {before after tokens : List Token} {left right expr : Expr}

/-! The parser gets to an operand that is too deep as it does in every derivation, since what stands in front of
that operand nests less and is read whole. -/

theorem stopsDeep_join {join : Expr → Expr → Expr} {operand parser : Parser} {token : Token} {s : Char}
    {symbol : List Char} {m n : Nat} (joins : token.joins = true)
    (written : ∀ {spelling : List Char}, token.Spelled spelling → spelling = s :: symbol)
    (solid : Text.isBlank s = false) (countsFirst : Counts before m) (countsSecond : Counts after n)
    (first : StopsDeep bound most before parser)
    (arrives : m < most → ∀ a blanks behind : List Char, Layout before a → isBlankText blanks = true →
      (a ++ (blanks ++ ((s :: symbol) ++ behind))).length ≤ bound →
      Arrives join (s :: symbol) operand parser a left (blanks ++ ((s :: symbol) ++ behind)))
    (second : StopsDeep bound most after operand) : StopsDeep bound most (before ++ token :: after) parser := by
  intro text rest layout hbound deep
  rw [(countsFirst.beside joins countsSecond).nesting_eq] at deep
  obtain ⟨a, blanks, spelling, b, rfl, layoutLeft, blank, spelled, layoutRight⟩ := layout.split_at
  obtain rfl := written spelled
  simp only [List.append_assoc] at hbound ⊢
  by_cases deepFirst : most ≤ m
  · exact first layoutLeft hbound (by rw [countsFirst.nesting_eq]; exact deepFirst)
  · refine (arrives (by omega) _ _ _ layoutLeft blank hbound).tooDeep blank solid (second layoutRight ?_ ?_)
    · simp only [List.length_append] at hbound ⊢
      omega
    · rw [countsSecond.nesting_eq]
      omega

theorem stopsDeep_or (derivation : Grammar.Disjunction levels before left)
    (conjunction : Grammar.Conjunction others after right)
    (first : StopsDeep bound most before (orExpr bound (unary bound most)))
    (second : StopsDeep bound most after (andExpr bound (unary bound most))) :
    StopsDeep bound most (before ++ .either :: after) (orExpr bound (unary bound most)) := by
  obtain ⟨m, countsFirst, -, fits⟩ := derivation.nests
  obtain ⟨n, countsSecond, -, -⟩ := conjunction.nests
  exact stopsDeep_join rfl (fun spelled => by cases spelled; rfl) (by decide) countsFirst countsSecond first
    (fun shallow _ _ _ layout blank hbound => disjunction_complete bound (fits.mono shallow) layout
      (unrelated_symbol (.inr rfl) blank _) (by rw [Text.skipBlanks_append blank]; rfl) hbound) second

theorem stopsDeep_and (derivation : Grammar.Conjunction levels before left)
    (compared : Grammar.Compared others after right)
    (first : StopsDeep bound most before (andExpr bound (unary bound most)))
    (second : StopsDeep bound most after (compareExpr (unary bound most))) :
    StopsDeep bound most (before ++ .both :: after) (andExpr bound (unary bound most)) := by
  obtain ⟨m, countsFirst, -, fits⟩ := derivation.nests
  obtain ⟨n, countsSecond, -, -⟩ := compared.nests
  exact stopsDeep_join rfl (fun spelled => by cases spelled; rfl) (by decide) countsFirst countsSecond first
    (fun shallow _ _ _ layout blank hbound => conjunction_complete bound (fits.mono shallow) layout
      (unrelated_symbol (.inl rfl) blank _) hbound) second

theorem stopsDeep_compare (relation : Relation) (unary₁ : Grammar.Unary levels before left)
    (unary₂ : Grammar.Unary others after right) (first : StopsDeep bound most before (unary bound most))
    (second : StopsDeep bound most after (unary bound most)) :
    StopsDeep bound most (before ++ .relation relation :: after) (compareExpr (unary bound most)) := by
  intro text rest layout hbound deep
  obtain ⟨m, countsFirst, -, fits⟩ := unary₁.nests
  obtain ⟨n, countsSecond, -, -⟩ := unary₂.nests
  rw [(countsFirst.counts.beside rfl countsSecond.counts).nesting_eq] at deep
  obtain ⟨a, blanks, spelling, b, rfl, layoutLeft, blank, spelled, layoutRight⟩ := layout.split_at
  simp only [List.append_assoc] at hbound ⊢
  by_cases deepFirst : most ≤ m
  · exact (first layoutLeft hbound (by rw [countsFirst.counts.nesting_eq]; exact deepFirst)).bind _
  · have leaves := unary_complete bound (fits.mono (by omega : m + 1 ≤ most)) layoutLeft
      (apart_relation spelled blank (b ++ rest)).1 hbound
    obtain ⟨token, tail, rfl, begins⟩ := unary₂.exists_head
    rw [compareExpr_relation spelled blank (stopsAt_equals begins layoutRight rest) leaves]
    refine (second layoutRight ?_ ?_).bind _
    · simp only [List.length_append] at hbound ⊢
      omega
    · rw [countsSecond.counts.nesting_eq]
      omega

/-- Where no level is left, every unary is too deep. -/
theorem stopsDeep_zero : StopsDeep bound 0 tokens (unary bound 0) :=
  fun _ _ _ => ⟨_, rfl⟩

/-- A negation takes one level and adds one to the nesting. -/
theorem stopsDeep_not (derivation : Grammar.Unary levels tokens expr)
    (inner : StopsDeep bound most tokens (unary bound most)) :
    StopsDeep bound (most + 1) (.bang :: tokens) (unary bound (most + 1)) := by
  intro text rest layout hbound deep
  obtain ⟨count, counts, -, -⟩ := derivation.nests
  rw [counts.not.counts.nesting_eq] at deep
  obtain ⟨tail, behind, htail, hunary⟩ := unary_not_layout layout hbound
  rw [hunary]
  exact (inner behind htail (by rw [counts.counts.nesting_eq]; omega)).bind _

/-- So do the parentheses of a group. -/
theorem stopsDeep_group (derivation : Grammar.Disjunction levels tokens expr)
    (inner : StopsDeep bound most tokens (orExpr bound (unary bound most))) :
    StopsDeep bound (most + 1) (.openParen :: (tokens ++ [.closeParen])) (unary bound (most + 1)) := by
  intro text rest layout hbound deep
  obtain ⟨count, counts, -, -⟩ := derivation.nests
  rw [counts.group.counts.nesting_eq] at deep
  obtain ⟨inside, blanks, behind, layoutInside, -, -, hinside, hunary⟩ := unary_group_layout layout hbound
  rw [hunary]
  exact (inner layoutInside hinside (by rw [counts.nesting_eq]; omega)).bind _

/-- On arguments that nest at least `most`, up to the parenthesis that closes them, the parser stops for that. -/
def ArgumentsStopDeep (bound most : Nat) (tokens : List Token) : Prop :=
  ∀ {room : Nat} {text rest : List Char}, Layout (tokens ++ [.closeParen]) text →
    (text ++ rest).length ≤ bound → (text ++ rest).length ≤ room → most ≤ nesting tokens →
    TooDeep (arguments (orExpr bound (unary bound most)) room (text ++ rest))

/-- So do the parentheses of a call. -/
theorem stopsDeep_call {function : Function} {args : List Expr}
    (derivation : Grammar.Arguments levels tokens args) (inner : ArgumentsStopDeep bound most tokens) :
    StopsDeep bound (most + 1) (.function function :: .openParen :: (tokens ++ [.closeParen]))
      (unary bound (most + 1)) := by
  intro text rest layout hbound deep
  obtain ⟨count, counts, -, -⟩ := derivation.nests
  rw [(counts.call function).counts.nesting_eq] at deep
  obtain ⟨inside, layoutInside, hinside, hunary⟩ := unary_call_layout layout hbound derivation.exists_head
  rw [hunary]
  exact (inner layoutInside hinside hinside (by rw [counts.nesting_eq]; omega)).bind _

theorem argumentsStopDeep_single (inner : StopsDeep bound most tokens (orExpr bound (unary bound most))) :
    ArgumentsStopDeep bound most tokens := by
  intro room text rest layout hbound hroom deep
  obtain ⟨a, blanks, closing, b, rfl, inside, -, spelled, -⟩ := layout.split_at
  cases spelled
  simp only [List.append_assoc] at hbound hroom ⊢
  cases room with
  | zero => simp at hroom
  | succ room => exact (inner inside hbound deep).bind _

theorem argumentsStopDeep_more {args : List Expr} (derivation : Grammar.Disjunction levels before expr)
    (arguments : Grammar.Arguments others after args)
    (first : StopsDeep bound most before (orExpr bound (unary bound most)))
    (second : ArgumentsStopDeep bound most after) : ArgumentsStopDeep bound most (before ++ .comma :: after) := by
  intro room text rest layout hbound hroom deep
  obtain ⟨m, countsFirst, -, fits⟩ := derivation.nests
  obtain ⟨n, countsSecond, -, -⟩ := arguments.nests
  rw [(countsFirst.beside rfl countsSecond).nesting_eq] at deep
  rw [List.append_assoc, List.cons_append] at layout
  obtain ⟨a, blanks, comma, b, rfl, inside, blank, spelled, behind⟩ := layout.split_at
  cases spelled
  simp only [List.append_assoc] at hbound hroom ⊢
  cases room with
  | zero => simp at hroom
  | succ room =>
      by_cases deepFirst : most ≤ m
      · exact (first inside hbound (by rw [countsFirst.nesting_eq]; exact deepFirst)).bind _
      · have leaves := orExpr_complete (fits.mono (by omega : m + 1 ≤ most)) inside
          (closed_mark (.inr rfl) blank (b ++ rest)) hbound
        simp only [List.length_append, List.length_cons] at hbound hroom
        have stuck := @second room b rest behind (by rw [List.length_append]; omega)
          (by rw [List.length_append]; omega) (by rw [countsSecond.nesting_eq]; omega)
        exact (congrArg TooDeep (arguments_comma leaves blank)).mpr (stuck.bind _)

end Steps

mutual

/-- A disjunction that nests at least as deep as the levels that are left is too deep. -/
theorem disjunction_tooDeep (bound : Nat) : ∀ {levels : Nat} {tokens : List Token} {expr : Expr},
    Grammar.Disjunction levels tokens expr → ∀ most : Nat,
      StopsDeep bound most tokens (orExpr bound (unary bound most))
  | _, _, _, .single derivation, most => fun layout hbound deep =>
      (conjunction_tooDeep bound derivation most layout hbound deep).bind _
  | _, _, _, .join derivation conjunction, most =>
      stopsDeep_or derivation conjunction (disjunction_tooDeep bound derivation most)
        (conjunction_tooDeep bound conjunction most)

theorem conjunction_tooDeep (bound : Nat) : ∀ {levels : Nat} {tokens : List Token} {expr : Expr},
    Grammar.Conjunction levels tokens expr → ∀ most : Nat,
      StopsDeep bound most tokens (andExpr bound (unary bound most))
  | _, _, _, .single derivation, most => fun layout hbound deep =>
      (compared_tooDeep bound derivation most layout hbound deep).bind _
  | _, _, _, .join derivation compared, most =>
      stopsDeep_and derivation compared (conjunction_tooDeep bound derivation most)
        (compared_tooDeep bound compared most)

theorem compared_tooDeep (bound : Nat) : ∀ {levels : Nat} {tokens : List Token} {expr : Expr},
    Grammar.Compared levels tokens expr → ∀ most : Nat,
      StopsDeep bound most tokens (compareExpr (unary bound most))
  | _, _, _, .single derivation, most => fun layout hbound deep =>
      (unary_tooDeep bound derivation most layout hbound deep).bind _
  | _, _, _, .related relation first second, most =>
      stopsDeep_compare relation first second (unary_tooDeep bound first most) (unary_tooDeep bound second most)

/-- The levels of a unary run out together with its nesting. -/
theorem unary_tooDeep (bound : Nat) : ∀ {levels : Nat} {tokens : List Token} {expr : Expr},
    Grammar.Unary levels tokens expr → ∀ most : Nat, StopsDeep bound most tokens (unary bound most)
  | _, _, _, _, 0 => stopsDeep_zero
  | _, _, _, .not derivation, most + 1 => stopsDeep_not derivation (unary_tooDeep bound derivation most)
  | _, _, _, .primary (.group derivation), most + 1 =>
      stopsDeep_group derivation (disjunction_tooDeep bound derivation most)
  | _, _, _, .primary (.scalar value), most + 1 => fun _ _ deep => by
      rw [(countsNegated_leaf (.inl ⟨value, rfl⟩)).counts.nesting_eq] at deep
      omega
  | _, _, _, .primary (.path steps), most + 1 => fun _ _ deep => by
      rw [(countsNegated_leaf (.inr ⟨steps, rfl⟩)).counts.nesting_eq] at deep
      omega
  | _, _, _, .primary (.call derivation _), most + 1 =>
      stopsDeep_call derivation (arguments_tooDeep bound derivation most)

theorem arguments_tooDeep (bound : Nat) : ∀ {levels : Nat} {tokens : List Token} {args : List Expr},
    Grammar.Arguments levels tokens args → ∀ most : Nat, ArgumentsStopDeep bound most tokens
  | _, _, _, .single derivation, most => argumentsStopDeep_single (disjunction_tooDeep bound derivation most)
  | _, _, _, .more derivation others, most =>
      argumentsStopDeep_more derivation others (disjunction_tooDeep bound derivation most)
        (arguments_tooDeep bound others most)

end

/-! ### The limit -/

section Limit

variable {levels : Nat} {tokens : List Token} {expr : Expr} {text : String}

/-- A text that nests less than there are levels is accepted. -/
theorem parse_shallow (derivation : Grammar.Disjunction levels tokens expr) (layout : Layout tokens text.toList)
    (shallow : nesting tokens < maxLevels) : parse text = .ok expr :=
  parse_of_sentence ⟨tokens, layout, derivation.derives_iff.mpr shallow⟩

/-- A text that nests as deep as there are levels, or deeper, is refused for that. -/
theorem parse_tooDeep (derivation : Grammar.Disjunction levels tokens expr) (layout : Layout tokens text.toList)
    (deep : maxLevels ≤ nesting tokens) : ∃ position, parse text = .error (.malformed position .tooDeep) := by
  have hbound : (text.toList ++ []).length ≤ text.toList.length := by simp
  obtain ⟨place, hplace⟩ := disjunction_tooDeep text.toList.length derivation maxLevels layout hbound deep
  rw [List.append_nil] at hplace
  have whole : wholeExpr text.toList = .error (.at .tooDeep place) := bind_error hplace _
  rw [parse, whole]
  exact ⟨_, rfl⟩

/-- The limit of nesting. A text that the grammar derives within any number of levels is accepted, and read as
    what it derives, if fewer parentheses, arguments and negations stand around each of its scalars and paths
    than there are levels, since a scalar or a path takes a level itself. Otherwise it is refused as nested too
    deeply. Nothing else about the text matters: not the number of its terms, nor that of its arguments. -/
theorem parse_of_nesting (derivation : Grammar.Disjunction levels tokens expr)
    (layout : Layout tokens text.toList) :
    (nesting tokens < maxLevels → parse text = .ok expr) ∧
      (maxLevels ≤ nesting tokens → ∃ position, parse text = .error (.malformed position .tooDeep) ∧
        (Fault.malformed position .tooDeep).message =
          "Parse error at position " ++ toString position ++ ": " ++ "Expression nested too deeply") := by
  refine ⟨parse_shallow derivation layout, fun deep => ?_⟩
  obtain ⟨position, hparse⟩ := parse_tooDeep derivation layout deep
  exact ⟨position, hparse, rfl⟩

end Limit

/-! ### Parentheses around one scalar -/

/-- The tokens of a truth value in a number of parentheses. -/
def wrapped : Nat → List Token
  | 0 => [.scalar (.bool true)]
  | count + 1 => .openParen :: (wrapped count ++ [.closeParen])

/-- The text of a truth value in a number of parentheses. -/
def wrappedText (count : Nat) : String :=
  String.ofList (List.replicate count '(' ++ (['t', 'r', 'u', 'e'] ++ List.replicate count ')'))

theorem layout_wrapped (count : Nat) : Layout (wrapped count) (wrappedText count).toList := by
  rw [wrappedText, String.toList_ofList]
  induction count with
  | zero => exact .single (.bool true)
  | succ count ih =>
      have inside := (Layout.single .openParen).append (ih.append (.single .closeParen))
      have closing : List.replicate (count + 1) ')' = List.replicate count ')' ++ [')'] := List.replicate_succ'
      rw [closing]
      simpa [wrapped, List.replicate_succ] using inside

theorem wrapped_derives (count : Nat) :
    Grammar.Disjunction (count + 1) (wrapped count) (.literal (.bool true)) := by
  induction count with
  | zero => exact .single (.single (.single (.primary (.scalar _))))
  | succ count ih => exact .single (.single (.single (.primary (.group ih))))

theorem countsNegated_wrapped (count : Nat) : CountsNegated (wrapped count) count := by
  induction count with
  | zero => exact countsNegated_leaf (.inl ⟨_, rfl⟩)
  | succ count ih => exact ih.counts.group

theorem nesting_wrapped (count : Nat) : nesting (wrapped count) = count :=
  (countsNegated_wrapped count).counts.nesting_eq

/-- In 255 parentheses a truth value is read, and behind one more negation it is not. -/
theorem parse_of_nesting_wrapped :
    parse (wrappedText 255) = .ok (.literal (.bool true)) ∧
      ∃ position, parse ("!" ++ wrappedText 255) = .error (.malformed position .tooDeep) := by
  have bang : Layout (.bang :: wrapped 255) ("!" ++ wrappedText 255).toList := by
    rw [String.toList_append]
    exact (Layout.single .bang).append (layout_wrapped 255)
  have negated : Grammar.Disjunction 257 (.bang :: wrapped 255) (.not (.literal (.bool true))) :=
    .single (.single (.single (.not (.primary (.group (wrapped_derives 254))))))
  have deep : nesting (.bang :: wrapped 255) = 256 := by
    have counts := (countsNegated_wrapped 255).not
    exact counts.counts.nesting_eq
  obtain ⟨position, hparse, -⟩ := (parse_of_nesting negated bang).2 (by rw [deep]; decide)
  exact ⟨(parse_of_nesting (wrapped_derives 255) (layout_wrapped 255)).1 (by rw [nesting_wrapped]; decide),
    position, hparse⟩

/-- No more than 256 parentheses stand around the one scalar of a text that derives, and still it is refused: the
    scalar itself takes the level that is missing. -/
theorem wrapped_to_limit_refused :
    Layout (wrapped 256) (wrappedText 256).toList ∧
      Grammar.Disjunction 257 (wrapped 256) (.literal (.bool true)) ∧ nesting (wrapped 256) = 256 ∧
      ∃ position, parse (wrappedText 256) = .error (.malformed position .tooDeep) := by
  have deep : maxLevels ≤ nesting (wrapped 256) := by
    rw [nesting_wrapped]
    decide
  exact ⟨layout_wrapped 256, wrapped_derives 256, nesting_wrapped 256,
    parse_tooDeep (wrapped_derives 256) (layout_wrapped 256) deep⟩

end FilterTree.Predicate
