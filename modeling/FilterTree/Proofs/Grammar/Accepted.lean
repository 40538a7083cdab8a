/-
Module: FilterTree.Proofs.Grammar.Accepted
Layer: Proofs
Purpose: What holds of every expression that a text is read as. Its calls have the arguments that their functions
  read, its paths have steps with names, its numbers are numbers, and on the way down from its root there are fewer
  negations and calls than levels. The chains of `&&` and `||` take no level and have no bound.
Imports: FilterTree.Proofs.Grammar.Completeness, FilterTree.Predicate.Eval
Main exports: Expr.Regular, Expr.Way, Expr.Within, Grammar.Disjunction.fits, Said, Said.chain,
  Predicate.parse_regular
-/
import FilterTree.Proofs.Grammar.Completeness
import FilterTree.Predicate.Eval

namespace FilterTree

/-! ### Numbers of tokens -/

namespace Number

theorem ofRank_ne_nan (negative : Bool) (rank : Nat) : ofRank negative rank ≠ .nan := by
  unfold ofRank
  split <;> exact Number.noConfusion

/-- No decimal is rounded to a NaN. -/
theorem ofDecimal_ne_nan (negative : Bool) (mantissa : Nat) (exponent : Int) :
    ofDecimal negative mantissa exponent ≠ .nan := by
  unfold ofDecimal
  dsimp only
  split
  · exact ofRank_ne_nan _ _
  · split
    · exact Number.noConfusion
    · split <;> exact ofRank_ne_nan _ _

theorem decimal?_ne_nan (negative : Bool) (text : List Char) : decimal? negative text ≠ some .nan := by
  intro read
  simp only [decimal?] at read
  -- With a point and without one, what stands behind the digits is a power of ten or nothing.
  split at read <;> split at read
  case h_1.isTrue | h_2.isTrue => cases read
  case h_1.isFalse | h_2.isFalse =>
    obtain ⟨exponent, -, rounded⟩ := Option.map_eq_some_iff.mp read
    exact ofDecimal_ne_nan _ _ _ rounded

/-- A digit is its own lower case. -/
theorem toLower_digit {c : Char} (digit : c.isDigit = true) : c.toLower = c := by
  simp only [Char.isDigit, Bool.and_eq_true, decide_eq_true_eq] at digit
  rw [Char.toLower, dif_neg]
  rintro ⟨above, -⟩
  exact absurd (UInt32.le_trans above digit.2) (by decide)

/-- A sign is taken, and no digit. -/
theorem mem_takeSign {text : List Char} {c : Char} (mem : c ∈ text) (digit : c.isDigit = true) :
    c ∈ (takeSign text).2 := by
  unfold takeSign
  split
  case h_1 rest | h_2 rest =>
    rcases List.mem_cons.mp mem with rfl | mem
    · exact absurd digit (by decide)
    · exact mem
  case h_3 => exact mem

/-- The only text that reads as a NaN is a word, and it holds no digit. -/
theorem ofText?_ne_nan {text : List Char} {c : Char} (digitMem : c ∈ text) (digit : c.isDigit = true) :
    ofText? text ≠ some .nan := by
  have mem := mem_takeSign digitMem digit
  rw [ofText?]
  dsimp only
  cases decimal : decimal? (takeSign text).1 (takeSign text).2 with
  | some value =>
      intro read
      exact decimal?_ne_nan _ _ (decimal.trans read)
  | none =>
      have lower : c ∈ (takeSign text).2.map Char.toLower :=
        List.mem_map.mpr ⟨c, mem, toLower_digit digit⟩
      have notWord : (takeSign text).2.map Char.toLower ≠ ['n', 'a', 'n'] := by
        intro folded
        rw [folded] at lower
        simp only [List.mem_cons, List.not_mem_nil, or_false] at lower
        obtain rfl | rfl | rfl := lower <;> exact absurd digit (by decide)
      simp only [Option.orElse_none, word?, notWord, if_false]
      split <;> simp

end Number

/-! ### Expressions and their parts -/

namespace Expr

/-- The expressions right inside an expression. -/
def parts : Expr → List Expr
  | .literal _ => []
  | .path _ => []
  | .call _ args => args
  | .not operand => [operand]
  | .compare _ left right => [left, right]
  | .and left right => [left, right]
  | .or left right => [left, right]

/-- A way down from an expression to one that stands in it. The expressions that it passes are listed from the first
    to the last, both included; the ways from a root to its leaves are those with a last expression without parts. -/
inductive Way : Expr → List Expr → Expr → Prop where
  | stay (expr : Expr) : Way expr [expr] expr
  | step {expr part last : Expr} {nodes : List Expr} (inside : part ∈ expr.parts) (onward : Way part nodes last) :
      Way expr (expr :: nodes) last

/-- Whether an expression is a negation or a call. -/
def nests : Expr → Bool
  | .not _ => true
  | .call _ _ => true
  | _ => false

/-- What evaluation relies on in one expression: a call has as many arguments as its function takes, each step of a
    path is a name, and a number is no NaN. -/
def Regular : Expr → Prop
  | .call function args => args.length = function.arity
  | .path steps => ∀ step ∈ steps, Predicate.IsSegment step.toList
  | .literal value => value ≠ .number .nan
  | _ => True

/-- Every expression on every way down is regular, and no way passes more than `most` negations and calls. -/
def Within (most : Nat) (expr : Expr) : Prop :=
  ∀ nodes last, expr.Way nodes last → last.Regular ∧ nodes.countP nests ≤ most

variable {most more : Nat} {expr : Expr}

theorem Within.mono (h : most ≤ more) (within : expr.Within most) : expr.Within more :=
  fun _ _ way => ⟨(within _ _ way).1, (within _ _ way).2.trans h⟩

/-- The ways down from an expression pass one more than those from its parts, where it is a negation or a call itself. -/
theorem Within.of_parts (regular : expr.Regular) (inside : ∀ part ∈ expr.parts, part.Within most) :
    expr.Within (most + if expr.nests then 1 else 0) := by
  intro nodes last way
  cases way with
  | stay =>
      rw [List.countP_singleton]
      exact ⟨regular, Nat.le_add_left _ _⟩
  | step mem onward =>
      obtain ⟨regular, count⟩ := inside _ mem _ _ onward
      rw [List.countP_cons]
      exact ⟨regular, Nat.add_le_add_right count _⟩

/-- Every expression on every way down is regular, and no way passes as many negations and calls as there are
    levels. -/
def Fits (levels : Nat) (expr : Expr) : Prop :=
  ∃ most, most < levels ∧ expr.Within most

/-- An expression that joins two and is no call fits where they do. -/
theorem Fits.join {levels : Nat} {left right : Expr} (first : left.Fits levels) (second : right.Fits levels)
    (parts : expr.parts = [left, right]) (regular : expr.Regular) (flat : expr.nests = false) :
    expr.Fits levels := by
  obtain ⟨m, lessFirst, withinFirst⟩ := first
  obtain ⟨n, lessSecond, withinSecond⟩ := second
  have inside : ∀ part ∈ expr.parts, part.Within (max m n) := by
    rw [parts]
    exact List.forall_mem_cons.mpr ⟨withinFirst.mono (Nat.le_max_left m n),
      List.forall_mem_singleton.mpr (withinSecond.mono (Nat.le_max_right m n))⟩
  have within := Within.of_parts regular inside
  rw [flat] at within
  exact ⟨max m n, Nat.max_lt.mpr ⟨lessFirst, lessSecond⟩, within⟩

/-! ### Calls -/

/-- There is an operand for every argument. -/
theorem length_evalAll {record : Value} : ∀ {args : List Expr} {operands : List Operand},
    evalAll record args = .ok operands → operands.length = args.length
  | [], _, evaluated => by
      cases evaluated
      rfl
  | arg :: args, _, evaluated => by
      obtain ⟨operand, -, evaluatedRest⟩ := Predicate.bind_eq_ok evaluated
      obtain ⟨operands, rest, pair⟩ := Predicate.bind_eq_ok evaluatedRest
      cases pair
      rw [List.length_cons, List.length_cons, length_evalAll rest]

end Expr

/-- A function reads no more operands than it takes. -/
theorem Function.apply_append {function : Function} {operands : List Operand}
    (arity : operands.length = function.arity) (more : List Operand) :
    function.apply (operands ++ more) = function.apply operands := by
  cases function with
  | lower | len | date =>
      obtain ⟨subject, rfl⟩ := List.length_eq_one_iff.mp arity
      rfl
  | startsWith | endsWith | contains =>
      obtain ⟨subject, pattern, rfl⟩ := List.length_eq_two.mp arity
      rfl

/-- A regular call has the value that it would have with more operands behind its own, so it is all one what a
    missing one counts as. -/
theorem Expr.eval_call_append {function : Function} {args : List Expr} (regular : (Expr.call function args).Regular)
    (record : Value) (more : List Operand) :
    (Expr.call function args).eval record =
      evalAll record args >>= fun operands => function.apply (operands ++ more) := by
  rw [eval]
  cases evaluated : evalAll record args with
  | error fault => rfl
  | ok operands =>
      have arity : operands.length = function.arity := (length_evalAll evaluated).trans regular
      exact (Function.apply_append arity more).symm

namespace Predicate

/-! ### Tokens with a spelling -/

/-- Every token of a list has a spelling. -/
def Spellable (tokens : List Token) : Prop :=
  ∀ token ∈ tokens, ∃ spelling, token.Spelled spelling

theorem Layout.spellable {tokens : List Token} {text : List Char} (h : Layout tokens text) : Spellable tokens := by
  induction h with
  | nil => exact List.forall_mem_nil _
  | cons _ spelled _ ih => exact List.forall_mem_cons.mpr ⟨⟨_, spelled⟩, ih⟩

theorem Spellable.tail {token : Token} {tokens : List Token} (h : Spellable (token :: tokens)) : Spellable tokens :=
  (List.forall_mem_cons.mp h).2

/-- So has every token on the two sides of one of them. -/
theorem Spellable.beside {before after : List Token} {token : Token} (h : Spellable (before ++ token :: after)) :
    Spellable before ∧ Spellable after := by
  obtain ⟨first, second⟩ := List.forall_mem_append.mp h
  exact ⟨first, Spellable.tail second⟩

/-- No number that is written is a NaN. -/
theorem Token.Spelled.regular_literal {value : Scalar} {spelling : List Char}
    (spelled : (Token.scalar value).Spelled spelling) : (Expr.literal value).Regular := by
  rintro rfl
  cases spelled with
  | number sign digit others reads =>
      exact Number.ofText?_ne_nan (List.mem_append_right _ List.mem_cons_self) digit reads

/-- Each step of a path that is written has a name. -/
theorem PathTail.isSegment {steps : List String} {tail : List Char} (joined : PathTail steps tail) :
    ∀ step ∈ steps, IsSegment step.toList := by
  induction joined with
  | nil => exact List.forall_mem_nil _
  | step _ named _ ih =>
      refine List.forall_mem_cons.mpr ⟨?_, ih⟩
      rw [String.toList_ofList]
      exact named

/-! ### What is derived -/

namespace Grammar

mutual

/-- What spellable tokens derive is regular, and passes fewer negations and calls than there are levels: each takes
    the level of its unary, and the leaf behind them takes one more. -/
theorem Disjunction.fits : ∀ {levels : Nat} {tokens : List Token} {expr : Expr},
    Disjunction levels tokens expr → Spellable tokens → expr.Fits levels
  | _, _, _, .single conjunction, spelled => conjunction.fits spelled
  | _, _, _, .join disjunction conjunction, spelled =>
      .join (disjunction.fits spelled.beside.1) (conjunction.fits spelled.beside.2) rfl trivial rfl

theorem Conjunction.fits : ∀ {levels : Nat} {tokens : List Token} {expr : Expr},
    Conjunction levels tokens expr → Spellable tokens → expr.Fits levels
  | _, _, _, .single compared, spelled => compared.fits spelled
  | _, _, _, .join conjunction compared, spelled =>
      .join (conjunction.fits spelled.beside.1) (compared.fits spelled.beside.2) rfl trivial rfl

theorem Compared.fits : ∀ {levels : Nat} {tokens : List Token} {expr : Expr},
    Compared levels tokens expr → Spellable tokens → expr.Fits levels
  | _, _, _, .single unary, spelled => unary.fits spelled
  | _, _, _, .related relation first second, spelled =>
      .join (first.fits spelled.beside.1) (second.fits spelled.beside.2) rfl trivial rfl

theorem Unary.fits : ∀ {levels : Nat} {tokens : List Token} {expr : Expr},
    Unary levels tokens expr → Spellable tokens → expr.Fits levels
  | _, _, _, .not unary, spelled => by
      obtain ⟨most, less, operand⟩ := unary.fits spelled.tail
      exact ⟨most + 1, Nat.succ_lt_succ less, .of_parts trivial (List.forall_mem_singleton.mpr operand)⟩
  | _, _, _, .primary primary, spelled => primary.fits spelled

/-- A primary takes no level for itself: its unary took it. -/
theorem Primary.fits : ∀ {levels : Nat} {tokens : List Token} {expr : Expr},
    Primary levels tokens expr → Spellable tokens → expr.Fits (levels + 1)
  | _, _, _, .group inner, spelled => by
      obtain ⟨most, less, within⟩ := inner.fits spelled.tail.beside.1
      exact ⟨most, Nat.lt_succ_of_lt less, within⟩
  | _, _, _, .scalar value, spelled => by
      obtain ⟨spelling, written⟩ := spelled _ List.mem_cons_self
      exact ⟨0, Nat.succ_pos _, .of_parts written.regular_literal (List.forall_mem_nil _)⟩
  | _, _, _, .path steps, spelled => by
      obtain ⟨spelling, written⟩ := spelled _ List.mem_cons_self
      cases written with
      | path joined => exact ⟨0, Nat.succ_pos _, .of_parts joined.isSegment (List.forall_mem_nil _)⟩
  | _, _, _, .call arguments arity, spelled => by
      obtain ⟨most, less, within⟩ := arguments.within spelled.tail.tail.beside.1
      exact ⟨most + 1, Nat.succ_lt_succ less, .of_parts arity within⟩

/-- The arguments of a call share a bound. -/
theorem Arguments.within : ∀ {levels : Nat} {tokens : List Token} {args : List Expr},
    Arguments levels tokens args → Spellable tokens → ∃ most, most < levels ∧ ∀ arg ∈ args, arg.Within most
  | _, _, _, .single inner, spelled => by
      obtain ⟨most, less, within⟩ := inner.fits spelled
      exact ⟨most, less, List.forall_mem_singleton.mpr within⟩
  | _, _, _, .more inner rest, spelled => by
      obtain ⟨m, lessFirst, first⟩ := inner.fits spelled.beside.1
      obtain ⟨n, lessSecond, others⟩ := rest.within spelled.beside.2
      refine ⟨max m n, Nat.max_lt.mpr ⟨lessFirst, lessSecond⟩, List.forall_mem_cons.mpr ⟨?_, fun arg hmem => ?_⟩⟩
      · exact first.mono (Nat.le_max_left m n)
      · exact (others arg hmem).mono (Nat.le_max_right m n)

end

end Grammar

/-! ### Chains -/

/-- A text lays out tokens that derive an expression. -/
def Said (derives : List Token → Expr → Prop) (text : List Char) (expr : Expr) : Prop :=
  ∃ tokens, Layout tokens text ∧ derives tokens expr

section Chains

variable {chained operand : List Token → Expr → Prop} {joined : Expr → Expr → Expr} {token : Token}
  {symbol text piece : List Char} {left right : Expr}

/-- A chain goes on with one more operand behind its symbol. -/
theorem Said.join (first : Said chained text left) (second : Said operand piece right)
    (spelled : token.Spelled symbol)
    (joins : ∀ {before after : List Token} {left right : Expr}, chained before left → operand after right →
      chained (before ++ token :: after) (joined left right)) :
    Said chained (text ++ (symbol ++ piece)) (joined left right) := by
  obtain ⟨before, layout, derivation⟩ := first
  obtain ⟨after, behind, derivationBehind⟩ := second
  have linked : Layout (token :: after) ([] ++ (symbol ++ piece)) := .cons rfl spelled behind
  exact ⟨before ++ token :: after, layout.append linked, joins derivation derivationBehind⟩

/-- And with any number of them, within the same levels. -/
theorem Said.chain (first : Said chained text left) (link : Said operand piece right)
    (spelled : token.Spelled symbol)
    (joins : ∀ {before after : List Token} {left right : Expr}, chained before left → operand after right →
      chained (before ++ token :: after) (joined left right)) (count : Nat) :
    Said chained (text ++ (List.replicate count (symbol ++ piece)).flatten) ((joined · right)^[count] left) := by
  induction count with
  | zero => simpa using first
  | succ count ih =>
      rw [List.replicate_succ', List.flatten_concat, ← List.append_assoc, Function.iterate_succ_apply']
      exact ih.join link spelled joins

end Chains

/-- The text of a part again and again. -/
theorem toList_join_replicate (count : Nat) (part : String) :
    (String.join (List.replicate count part)).toList = (List.replicate count part.toList).flatten := by
  rw [String.toList_join, List.flatMap, List.map_replicate]

/-- Whatever text is accepted, what it is read as is regular everywhere, and no way from its root down passes more
    than 255 negations and calls. The arguments of a call are all that its function reads. Behind the text, a
    disjunction may go on with any number of conjunctions of any length. -/
theorem parse_regular {text : String} {expr : Expr} (accepted : parse text = .ok expr) :
    (∀ nodes last, expr.Way nodes last → last.Regular ∧ nodes.countP Expr.nests ≤ 255) ∧
      (∀ nodes function args, expr.Way nodes (.call function args) → ∀ record more,
        (Expr.call function args).eval record =
          Expr.evalAll record args >>= fun operands => function.apply (operands ++ more)) ∧
      ∀ count length : Nat,
        let yes := Expr.literal (.bool true)
        parse (text ++ String.join (List.replicate count
            ("||" ++ ("true" ++ String.join (List.replicate length "&&true"))))) =
          .ok ((Expr.or · ((Expr.and · yes)^[length] yes))^[count] expr) := by
  obtain ⟨tokens, layout, derivation⟩ := sentence_of_parse accepted
  obtain ⟨most, less, within⟩ := derivation.fits layout.spellable
  -- Of the 256 levels the leaf at the end of a way takes one.
  have bounded : expr.Within 255 := within.mono (Nat.le_of_lt_succ less)
  refine ⟨bounded, fun _ _ _ way => Expr.eval_call_append (bounded _ _ way).1, fun count length => ?_⟩
  intro yes
  have layoutYes : Layout [.scalar (.bool true)] "true".toList := .single (.bool true)
  have word : Said (Grammar.Compared maxLevels) "true".toList yes :=
    ⟨_, layoutYes, .single (.primary (.scalar (.bool true)))⟩
  have alone : Said (Grammar.Conjunction maxLevels) "true".toList yes :=
    ⟨_, layoutYes, .single (.single (.primary (.scalar (.bool true))))⟩
  have said : Said (Grammar.Disjunction maxLevels) text.toList expr := sentence_of_parse accepted
  have longer := said.chain (alone.chain word .both .join length) .either .join count
  apply parse_of_sentence
  simp only [Sentence, String.toList_append, toList_join_replicate]
  exact longer

/-- A negated call with a call in its arguments passes three. -/
theorem parse_regular_of_nested :
    let expr : Expr := .and
      (.not (.call .startsWith [.call .lower [.path ["name"]], .literal (.text "a")]))
      (.compare .ge (.path ["$age"]) (.literal (.number (Number.ofNat 18))))
    parse "!starts_with(lower(record?.name), 'a') && record.$age >= 18" = .ok expr ∧
      ∀ nodes last, expr.Way nodes last → last.Regular ∧ nodes.countP Expr.nests ≤ 255 := by
  intro expr
  have accepted : parse "!starts_with(lower(record?.name), 'a') && record.$age >= 18" = .ok expr := by
    decide +kernel
  exact ⟨accepted, (parse_regular accepted).1⟩

end Predicate

end FilterTree
