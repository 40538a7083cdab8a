/-
Module: FilterTree.Proofs.Grammar.Completeness
Layer: Proofs
Purpose: What is derived is accepted. On a layout of tokens that derive an expression every parser gives that
  expression, whatever stands behind the layout, as long as that does not go on with it; a parser may leave
  or skip the blanks in between. With soundness this makes the parser and the grammar agree, and from the
  parser the grammar gets that no text has two readings.
Imports: FilterTree.Proofs.Grammar.Soundness
Main exports: Closed, Leaves, orExpr_complete, parse_of_sentence, Sentence.unique, parse_agrees_with_grammar
-/
import FilterTree.Proofs.Grammar.Soundness

namespace FilterTree.Predicate

open Text (skipBlanks isBlankText StopsAt)

/-! ### How spellings begin -/

/-- Whether a token may begin a unary. -/
def Token.begins : Token → Bool
  | .bang => true
  | .openParen => true
  | .scalar _ => true
  | .path _ => true
  | .function _ => true
  | _ => false

theorem isBlank_of_isFieldChar {c : Char} (h : Text.isFieldChar c = true) : Text.isBlank c = false := by
  rw [Bool.eq_false_iff]
  intro hblank
  rw [Text.isFieldChar_of_isBlank hblank] at h
  contradiction

/-- The first character of a unary is no blank and none of the marks that may stand behind a relation or behind
    the arguments of a call; only a negation begins with its mark. -/
theorem spelled_begins {token : Token} {spelling : List Char} (spelled : token.Spelled spelling)
    (begins : token.begins = true) :
    ∃ c tail, spelling = c :: tail ∧ Text.isBlank c = false ∧ c ≠ '=' ∧ c ≠ ')' ∧
      (token ≠ .bang → c ≠ '!') := by
  cases spelled with
  | openParen => exact ⟨_, _, rfl, by decide⟩
  | bang => exact ⟨_, _, rfl, by decide⟩
  | text quotes _ =>
      refine ⟨_, _, rfl, ?_⟩
      rcases quotes with rfl | rfl
      · exact ⟨by decide, by decide, by decide, fun _ => by decide⟩
      · exact ⟨by decide, by decide, by decide, fun _ => by decide⟩
  | @number minus digits first value sign digit _ _ =>
      rcases sign with rfl | rfl
      · refine ⟨_, _, rfl, isBlank_of_isFieldChar (isFieldChar_of_isDigit digit), ?_, ?_, fun _ => ?_⟩ <;>
          (rintro rfl; exact absurd digit (by decide))
      · exact ⟨_, _, rfl, by decide, by decide, by decide, fun _ => by decide⟩
  | bool value => cases value <;> exact ⟨_, _, rfl, by decide, by decide, by decide, fun _ => by decide⟩
  | null => exact ⟨_, _, rfl, by decide⟩
  | undefined => exact ⟨_, _, rfl, by decide⟩
  | path _ => exact ⟨_, _, rfl, by decide, by decide, by decide, fun _ => by decide⟩
  | function function =>
      cases function <;> exact ⟨_, _, rfl, by decide, by decide, by decide, fun _ => by decide⟩
  | closeParen | comma | both | either | relation | longEq | longNe => cases begins

/-- Skipping blanks in front of a layout leaves the spelling of its first token and a layout of the others. -/
theorem skip_layout {token : Token} {tokens : List Token} {text : List Char} (begins : token.begins = true)
    (layout : Layout (token :: tokens) text) (rest : List Char) :
    ∃ spelling tail, skipBlanks (text ++ rest) = spelling ++ (tail ++ rest) ∧ token.Spelled spelling ∧
      Layout tokens tail := by
  cases layout with
  | @cons _ _ blanks spelling tail blank spelled others =>
      obtain ⟨c, after, rfl, notBlank, -⟩ := spelled_begins spelled begins
      refine ⟨_, tail, ?_, spelled, others⟩
      rw [List.append_assoc, Text.skipBlanks_append blank, List.cons_append, List.cons_append,
        Text.skipBlanks_cons notBlank, List.append_assoc, List.cons_append]

/-- No equals sign stands in front of a unary. -/
theorem stopsAt_equals {token : Token} {tokens : List Token} {text : List Char}
    (begins : token.begins = true) (layout : Layout (token :: tokens) text) (rest : List Char) :
    StopsAt (· == '=') (text ++ rest) := by
  cases layout with
  | @cons _ _ blanks spelling tail blank spelled _ =>
      cases blanks with
      | nil =>
          obtain ⟨c, after, rfl, -, notEquals, -⟩ := spelled_begins spelled begins
          simpa [StopsAt] using notEquals
      | cons c blanks =>
          rw [isBlankText, List.all_cons, Bool.and_eq_true] at blank
          have notEquals : c ≠ '=' := by
            rintro rfl
            exact absurd blank.1 (by decide)
          simpa [StopsAt] using notEquals

namespace Grammar

/-- A unary begins with a token that may begin one. -/
theorem Unary.exists_head {levels : Nat} {tokens : List Token} {expr : Expr}
    (h : Unary levels tokens expr) : ∃ token others, tokens = token :: others ∧ token.begins = true := by
  cases h with
  | not => exact ⟨_, _, rfl, rfl⟩
  | primary derivation => cases derivation <;> exact ⟨_, _, rfl, rfl⟩

theorem Compared.exists_head {levels : Nat} {tokens : List Token} {expr : Expr}
    (h : Compared levels tokens expr) : ∃ token others, tokens = token :: others ∧ token.begins = true := by
  cases h with
  | single unary => exact unary.exists_head
  | related _ first _ =>
      obtain ⟨token, others, rfl, begins⟩ := first.exists_head
      exact ⟨token, _, rfl, begins⟩

theorem Conjunction.exists_head {levels : Nat} {tokens : List Token} {expr : Expr} :
    Conjunction levels tokens expr → ∃ token others, tokens = token :: others ∧ token.begins = true
  | .single compared => compared.exists_head
  | .join conjunction _ => by
      obtain ⟨token, others, rfl, begins⟩ := conjunction.exists_head
      exact ⟨token, _, rfl, begins⟩

theorem Disjunction.exists_head {levels : Nat} {tokens : List Token} {expr : Expr} :
    Disjunction levels tokens expr → ∃ token others, tokens = token :: others ∧ token.begins = true
  | .single conjunction => conjunction.exists_head
  | .join disjunction _ => by
      obtain ⟨token, others, rfl, begins⟩ := disjunction.exists_head
      exact ⟨token, _, rfl, begins⟩

theorem Arguments.exists_head {levels : Nat} {tokens : List Token} {args : List Expr}
    (h : Arguments levels tokens args) : ∃ token others, tokens = token :: others ∧ token.begins = true := by
  cases h with
  | single inner => exact inner.exists_head
  | more inner _ =>
      obtain ⟨token, others, rfl, begins⟩ := inner.exists_head
      exact ⟨token, _, rfl, begins⟩

end Grammar

/-! ### What may stand behind a layout -/

/-- The text behind a comparison: it keeps the last word apart and begins with no relation. -/
structure Unrelated (rest : List Char) : Prop where
  apart : Apart rest
  noRelation : relation? (skipBlanks rest) = none

/-- The text behind a disjunction goes on with it in no way. -/
structure Closed (rest : List Char) : Prop extends Unrelated rest where
  noBoth : Text.stripPrefix? ['&', '&'] (skipBlanks rest) = none
  noEither : Text.stripPrefix? ['|', '|'] (skipBlanks rest) = none

theorem closed_nil : Closed [] :=
  ⟨⟨apart_nil, rfl⟩, rfl, rfl⟩

/-- The spelling of a relation keeps a word apart. -/
theorem apart_relation {relation : Relation} {blanks spelling : List Char}
    (spelled : (Token.relation relation).Spelled spelling) (hb : isBlankText blanks = true)
    (rest : List Char) :
    Apart (blanks ++ (spelling ++ rest)) ∧ skipBlanks (blanks ++ (spelling ++ rest)) = spelling ++ rest := by
  obtain ⟨c, tail, rfl, hc⟩ : ∃ c tail, spelling = c :: tail ∧ (c = '=' ∨ c = '!' ∨ c = '>' ∨ c = '<') := by
    cases spelled with
    | relation => cases relation <;> exact ⟨_, _, rfl, by decide⟩
    | longEq | longNe => exact ⟨_, _, rfl, by decide⟩
  constructor
  · apply apart_blanks hb (apart_cons _)
    rcases hc with rfl | rfl | rfl | rfl <;> decide
  · rw [Text.skipBlanks_append hb]
    exact Text.skipBlanks_cons (by rcases hc with rfl | rfl | rfl | rfl <;> decide)

/-- A closing parenthesis or a comma ends a disjunction. -/
theorem closed_mark {c : Char} {blanks : List Char} (hc : c = ')' ∨ c = ',')
    (hb : isBlankText blanks = true) (rest : List Char) : Closed (blanks ++ c :: rest) := by
  have hskip : skipBlanks (blanks ++ c :: rest) = c :: rest := by
    rw [Text.skipBlanks_append hb]
    rcases hc with rfl | rfl <;> exact Text.skipBlanks_cons (by decide)
  refine ⟨⟨apart_blanks hb (apart_cons ?_), ?_⟩, ?_, ?_⟩
  · rcases hc with rfl | rfl <;> decide
  all_goals rw [hskip]; rcases hc with rfl | rfl <;> rfl

/-- The symbol of a chain ends what stands before it. -/
theorem unrelated_symbol {c : Char} {blanks : List Char} (hc : c = '&' ∨ c = '|')
    (hb : isBlankText blanks = true) (rest : List Char) : Unrelated (blanks ++ c :: rest) := by
  refine ⟨apart_blanks hb (apart_cons ?_), ?_⟩
  · rcases hc with rfl | rfl <;> decide
  · rw [Text.skipBlanks_append hb]
    rcases hc with rfl | rfl <;> rw [Text.skipBlanks_cons (by decide)] <;> rfl

/-! ### Chains -/

/-- A parser reads `text` in front of `rest` as an expression, up to the blanks between them. -/
def Leaves (parser : Parser) (text : List Char) (expr : Expr) (rest : List Char) : Prop :=
  ∃ last, parser (text ++ rest) = .ok (expr, last) ∧ skipBlanks last = skipBlanks rest

theorem stripPrefix?_append (symbol rest : List Char) :
    Text.stripPrefix? symbol (symbol ++ rest) = some rest := by
  induction symbol with
  | nil => rfl
  | cons s symbol ih => rw [List.cons_append, Text.stripPrefix?, if_pos rfl, ih]

/-- A sound parser leaves no more than it was given. -/
theorem Sound.length_le {derives : List Token → Expr → Prop} {parser : Parser} (sound : Sound derives parser)
    {text rest : List Char} {expr : Expr} (h : parser text = .ok (expr, rest)) :
    rest.length ≤ text.length := by
  obtain ⟨tokens, taken, rfl, -, -⟩ := sound _ _ _ h
  simp

section Chain

variable {join : Expr → Expr → Expr} {symbol : List Char} {operand : Parser} {bound : Nat}

/-- In front of `rest` a parser arrives in a chain that has `expr` so far, with a bound that is no shorter than
    the text that is left. -/
def Arrives (join : Expr → Expr → Expr) (symbol : List Char) (operand parser : Parser) (text : List Char)
    (expr : Expr) (rest : List Char) : Prop :=
  ∃ bound last, parser (text ++ rest) = chain join symbol operand bound expr last ∧
    skipBlanks last = skipBlanks rest ∧ last.length ≤ bound

/-- A chain is over where its symbol does not follow. -/
theorem Arrives.leaves {parser : Parser} {text rest : List Char} {expr : Expr}
    (arrives : Arrives join symbol operand parser text expr rest)
    (noSymbol : Text.stripPrefix? symbol (skipBlanks rest) = none) : Leaves parser text expr rest := by
  obtain ⟨bound, last, hchain, hlast, -⟩ := arrives
  rw [← hlast] at noSymbol
  rw [Leaves, hchain]
  cases bound with
  | zero => exact ⟨last, rfl, hlast⟩
  | succ bound =>
      refine ⟨skipBlanks last, ?_, by rw [Text.skipBlanks_skipBlanks, hlast]⟩
      simp only [chain, noSymbol]

/-- A chain begins with its first operand. -/
theorem arrives_first {derives : List Token → Expr → Prop} {text rest : List Char} {expr : Expr}
    (sound : Sound derives operand) (first : Leaves operand text expr rest)
    (hbound : (text ++ rest).length ≤ bound) :
    Arrives join symbol operand
      (fun text => operand text >>= fun (left, rest) => chain join symbol operand bound left rest)
      text expr rest := by
  obtain ⟨last, hread, hlast⟩ := first
  refine ⟨bound, last, ?_, hlast, le_trans (sound.length_le hread) hbound⟩
  simp only [hread]
  rfl

/-- A chain goes on with one operand behind its symbol. -/
theorem Arrives.step {derives : List Token → Expr → Prop} {parser : Parser} {a blanks b rest : List Char}
    {left right : Expr} {s : Char} {tail : List Char} (sound : Sound derives operand)
    (blank : isBlankText blanks = true) (solid : Text.isBlank s = false)
    (arrives : Arrives join (s :: tail) operand parser a left (blanks ++ ((s :: tail) ++ (b ++ rest))))
    (next : Leaves operand b right rest) :
    Arrives join (s :: tail) operand parser (a ++ (blanks ++ ((s :: tail) ++ b))) (join left right) rest := by
  obtain ⟨bound, last, hchain, hlast, hlength⟩ := arrives
  obtain ⟨after, hnext, hafter⟩ := next
  rw [Text.skipBlanks_append blank, List.cons_append, Text.skipBlanks_cons solid] at hlast
  have hshort := sound.length_le hnext
  have hlong := Text.length_skipBlanks_le last
  rw [hlast, List.length_cons, List.length_append] at hlong
  cases bound with
  | zero => omega
  | succ bound =>
      refine ⟨bound, after, ?_, hafter, by omega⟩
      have htext : a ++ (blanks ++ ((s :: tail) ++ b)) ++ rest =
          a ++ (blanks ++ ((s :: tail) ++ (b ++ rest))) := by simp
      rw [htext, hchain, chain, hlast, ← List.cons_append, stripPrefix?_append]
      simp only [hnext]
      rfl

end Chain

/-! ### Derivations -/

/-- A unary that begins with no negation is a primary. -/
theorem unary_primary {bound levels : Nat} {token : Token} {text spelling rest : List Char}
    (spelled : token.Spelled spelling) (begins : token.begins = true) (notBang : token ≠ .bang)
    (hskip : skipBlanks text = spelling ++ rest) :
    unary bound (levels + 1) text = primary bound (orExpr bound (unary bound levels)) (spelling ++ rest) := by
  obtain ⟨c, tail, rfl, -, -, -, hbang⟩ := spelled_begins spelled begins
  rw [unary, hskip, List.cons_append]
  split
  · rename_i heq
    cases heq
    exact absurd rfl (hbang notBang)
  · rfl

/-- The parenthesis of a call keeps the name of its function apart. -/
theorem open_stopsAt {tokens : List Token} {text : List Char} (layout : Layout (.openParen :: tokens) text)
    (rest : List Char) : StopsAt Text.isNameChar (text ++ rest) := by
  cases layout with
  | @cons _ _ blanks spelling tail blank spelled _ =>
      cases spelled
      rw [List.append_assoc]
      exact (apart_blanks blank (apart_cons (by decide))).name

/-- A group is read whole where its parenthesis closes. -/
theorem group_leaves {inner : Parser} {text blanks rest : List Char} {expr : Expr}
    (leaves : Leaves inner text expr (blanks ++ ')' :: rest)) (blank : isBlankText blanks = true) :
    group inner (text ++ (blanks ++ ')' :: rest)) = .ok (expr, rest) := by
  obtain ⟨last, hread, hlast⟩ := leaves
  rw [Text.skipBlanks_append blank, Text.skipBlanks_cons (by decide)] at hlast
  rw [group, bind_of_ok hread]
  simp only [hlast]

/-- The arguments end where their parenthesis closes. -/
theorem arguments_single {inner : Parser} {most : Nat} {text blanks rest : List Char} {arg : Expr}
    (leaves : Leaves inner text arg (blanks ++ ')' :: rest)) (blank : isBlankText blanks = true) :
    arguments inner (most + 1) (text ++ (blanks ++ ')' :: rest)) = .ok ([arg], rest) := by
  obtain ⟨last, hread, hlast⟩ := leaves
  rw [Text.skipBlanks_append blank, Text.skipBlanks_cons (by decide)] at hlast
  rw [arguments, bind_of_ok hread]
  simp only [hlast]

/-- The arguments go on behind a comma. -/
theorem arguments_comma {inner : Parser} {most : Nat} {text blanks rest : List Char} {arg : Expr}
    (leaves : Leaves inner text arg (blanks ++ ',' :: rest)) (blank : isBlankText blanks = true) :
    arguments inner (most + 1) (text ++ (blanks ++ ',' :: rest)) =
      arguments inner most rest >>= fun (args, last) => .ok (arg :: args, last) := by
  obtain ⟨behind, hread, hbehind⟩ := leaves
  rw [Text.skipBlanks_append blank, Text.skipBlanks_cons (by decide)] at hbehind
  rw [arguments, bind_of_ok hread]
  simp only [hbehind]

/-- A unary that no relation follows is a comparison. -/
theorem compareExpr_single {reader : Parser} {text rest : List Char} {expr : Expr}
    (first : Leaves reader text expr rest) (noRelation : relation? (skipBlanks rest) = none) :
    Leaves (compareExpr reader) text expr rest := by
  obtain ⟨last, hread, hlast⟩ := first
  rw [← hlast] at noRelation
  refine ⟨skipBlanks last, ?_, by rw [Text.skipBlanks_skipBlanks, hlast]⟩
  rw [compareExpr, bind_of_ok hread]
  simp only [noRelation]

/-- A comparison goes on behind its relation. -/
theorem compareExpr_relation {reader : Parser} {relation : Relation} {a blanks spelling behind : List Char}
    {left : Expr} (spelled : (Token.relation relation).Spelled spelling) (blank : isBlankText blanks = true)
    (noEquals : StopsAt (· == '=') behind) (first : Leaves reader a left (blanks ++ (spelling ++ behind))) :
    compareExpr reader (a ++ (blanks ++ (spelling ++ behind))) =
      reader behind >>= fun (right, rest) => .ok (.compare relation left right, rest) := by
  obtain ⟨last, hleft, hlast⟩ := first
  have hrelation : relation? (skipBlanks last) = some (relation, behind) := by
    rw [hlast, (apart_relation spelled blank behind).2]
    exact relation?_spelled spelled noEquals
  rw [compareExpr, bind_of_ok hleft]
  simp only [hrelation]

/-- Two unaries with a relation between them are a comparison. -/
theorem compareExpr_related {reader : Parser} {relation : Relation} {a blanks spelling b rest : List Char}
    {left right : Expr} (spelled : (Token.relation relation).Spelled spelling)
    (blank : isBlankText blanks = true) (noEquals : StopsAt (· == '=') (b ++ rest))
    (first : Leaves reader a left (blanks ++ (spelling ++ (b ++ rest))))
    (second : Leaves reader b right rest) :
    Leaves (compareExpr reader) (a ++ (blanks ++ (spelling ++ b))) (.compare relation left right) rest := by
  obtain ⟨after, hright, hafter⟩ := second
  refine ⟨after, ?_, hafter⟩
  have htext : a ++ (blanks ++ (spelling ++ b)) ++ rest = a ++ (blanks ++ (spelling ++ (b ++ rest))) := by
    simp
  rw [htext, compareExpr_relation spelled blank noEquals first, bind_of_ok hright]

section Unary

variable {bound levels : Nat} {text rest : List Char}

/-- A negation goes on behind its mark. -/
theorem unary_not_layout {tokens : List Token} (layout : Layout (.bang :: tokens) text)
    (hbound : (text ++ rest).length ≤ bound) :
    ∃ tail, Layout tokens tail ∧ (tail ++ rest).length ≤ bound ∧ unary bound (levels + 1) (text ++ rest) =
      unary bound levels (tail ++ rest) >>= fun (operand, rest) => .ok (.not operand, rest) := by
  obtain ⟨spelling, tail, hskip, spelled, others⟩ := skip_layout rfl layout rest
  cases spelled
  have hlength := Text.length_skipBlanks_le (text ++ rest)
  rw [hskip] at hlength
  refine ⟨tail, others, ?_, ?_⟩
  · simp only [List.length_append, List.length_cons] at hlength hbound ⊢
    omega
  · rw [unary, hskip]
    rfl

/-- A negation is read with what it negates. -/
theorem unary_not {tokens : List Token} {expr : Expr} (layout : Layout (.bang :: tokens) text)
    (hbound : (text ++ rest).length ≤ bound)
    (operand : ∀ {tail : List Char}, Layout tokens tail → (tail ++ rest).length ≤ bound →
      Leaves (unary bound levels) tail expr rest) :
    Leaves (unary bound (levels + 1)) text (.not expr) rest := by
  obtain ⟨tail, others, htail, hunary⟩ := unary_not_layout layout hbound
  obtain ⟨last, hread, hlast⟩ := operand others htail
  exact ⟨last, by rw [hunary, bind_of_ok hread], hlast⟩

/-- A scalar is read whole when what follows is kept apart from it. -/
theorem unary_scalar {value : Scalar} (layout : Layout [.scalar value] text) (apart : Apart rest) :
    Leaves (unary bound (levels + 1)) text (.literal value) rest := by
  obtain ⟨spelling, tail, hskip, spelled, others⟩ := skip_layout rfl layout rest
  cases others with
  | nil blank =>
      refine ⟨tail ++ rest, ?_, Text.skipBlanks_append blank rest⟩
      rw [unary_primary spelled rfl (by simp) hskip]
      exact primary_scalar spelled (apart_blanks blank apart)

/-- A path is read whole when what follows is kept apart from it. -/
theorem unary_path {names : List String} (layout : Layout [.path names] text) (apart : Apart rest)
    (hbound : (text ++ rest).length ≤ bound) :
    Leaves (unary bound (levels + 1)) text (.path names) rest := by
  obtain ⟨spelling, tail, hskip, spelled, others⟩ := skip_layout rfl layout rest
  have hlength := Text.length_skipBlanks_le (text ++ rest)
  rw [hskip] at hlength
  cases others with
  | nil blank =>
      refine ⟨tail ++ rest, ?_, Text.skipBlanks_append blank rest⟩
      rw [unary_primary spelled rfl (by simp) hskip]
      cases spelled with
      | path joined =>
          rw [List.append_assoc]
          exact primary_path joined (apart_blanks blank apart)
            (by simp only [List.length_append] at hlength hbound ⊢; omega)

/-- A group goes on behind its parenthesis, in front of the one that closes it. -/
theorem unary_group_layout {tokens : List Token}
    (layout : Layout (.openParen :: (tokens ++ [.closeParen])) text) (hbound : (text ++ rest).length ≤ bound) :
    ∃ inside blanks behind, Layout tokens inside ∧ isBlankText blanks = true ∧ isBlankText behind = true ∧
      (inside ++ (blanks ++ ')' :: (behind ++ rest))).length ≤ bound ∧
      unary bound (levels + 1) (text ++ rest) =
        group (orExpr bound (unary bound levels)) (inside ++ (blanks ++ ')' :: (behind ++ rest))) := by
  obtain ⟨spelling, tail, hskip, spelled, others⟩ := skip_layout rfl layout rest
  have hlength := Text.length_skipBlanks_le (text ++ rest)
  rw [hskip] at hlength
  obtain ⟨inside, blanks, closing, behind, rfl, layoutInside, blank, closed, last⟩ := others.split_at
  cases last with
  | nil blankBehind =>
      cases closed
      refine ⟨inside, blanks, behind, layoutInside, blank, blankBehind, ?_, ?_⟩
      · simp only [List.length_append, List.length_cons] at hlength hbound ⊢
        omega
      · rw [unary_primary spelled rfl (by simp) hskip]
        cases spelled
        simp only [List.append_assoc]
        rfl

/-- A group is read with the parenthesis that closes it. -/
theorem unary_group {tokens : List Token} {expr : Expr}
    (layout : Layout (.openParen :: (tokens ++ [.closeParen])) text) (hbound : (text ++ rest).length ≤ bound)
    (inner : ∀ {inside behind : List Char}, Layout tokens inside → Closed behind →
      (inside ++ behind).length ≤ bound → Leaves (orExpr bound (unary bound levels)) inside expr behind) :
    Leaves (unary bound (levels + 1)) text expr rest := by
  obtain ⟨inside, blanks, behind, layoutInside, blank, blankBehind, hinside, hunary⟩ :=
    unary_group_layout layout hbound
  have leaves := inner layoutInside (closed_mark (.inl rfl) blank (behind ++ rest)) hinside
  exact ⟨behind ++ rest, by rw [hunary, group_leaves leaves blank], Text.skipBlanks_append blankBehind rest⟩

/-- A call goes on with its arguments. -/
theorem unary_call_layout {function : Function} {tokens : List Token}
    (layout : Layout (.function function :: .openParen :: (tokens ++ [.closeParen])) text)
    (hbound : (text ++ rest).length ≤ bound)
    (begins : ∃ token others, tokens = token :: others ∧ token.begins = true) :
    ∃ inside, Layout (tokens ++ [.closeParen]) inside ∧ (inside ++ rest).length ≤ bound ∧
      unary bound (levels + 1) (text ++ rest) =
        arguments (orExpr bound (unary bound levels)) bound (inside ++ rest) >>= fun (args, rest) =>
          if args.length = function.arity then .ok (.call function args, rest)
          else .error (.fault (.arity function args.length)) := by
  obtain ⟨spelling, tail, hskip, spelled, others⟩ := skip_layout rfl layout rest
  have hlength := Text.length_skipBlanks_le (text ++ rest)
  rw [hskip] at hlength
  have stops := open_stopsAt others rest
  obtain ⟨opening, inside, hopen, spelledOpen, argumentsLayout⟩ := skip_layout rfl others rest
  cases spelledOpen
  rw [List.singleton_append] at hopen
  obtain ⟨token, more, rfl, begins⟩ := begins
  obtain ⟨first, after, hargs, spelledFirst, behind⟩ := skip_layout begins argumentsLayout rest
  have hshort := Text.length_skipBlanks_le (tail ++ rest)
  have hshorter := Text.length_skipBlanks_le (inside ++ rest)
  rw [hopen] at hshort
  rw [hargs, ← List.append_assoc] at hshorter
  simp only [List.length_append, List.length_cons] at hlength hbound hshort hshorter
  refine ⟨first ++ after, @Layout.cons _ _ [] _ _ rfl spelledFirst behind, ?_, ?_⟩
  · simp only [List.length_append]
    omega
  · rw [unary_primary spelled rfl (by simp) hskip]
    cases spelled with
    | function =>
        have noClose : ∀ rest', skipBlanks (inside ++ rest) ≠ ')' :: rest' := by
          intro rest' hclose
          obtain ⟨c, first, rfl, -, -, notClose, -⟩ := spelled_begins spelledFirst begins
          rw [hargs, List.cons_append] at hclose
          cases hclose
          exact notClose rfl
        rw [primary_function function stops, call_open hopen noClose, hargs, ← List.append_assoc]

/-- A call is read with the parenthesis that closes its arguments. -/
theorem unary_call {function : Function} {tokens : List Token} {args : List Expr}
    (layout : Layout (.function function :: .openParen :: (tokens ++ [.closeParen])) text)
    (hbound : (text ++ rest).length ≤ bound) (arity : args.length = function.arity)
    (begins : ∃ token others, tokens = token :: others ∧ token.begins = true)
    (inner : ∀ {inside : List Char}, Layout (tokens ++ [.closeParen]) inside →
      (inside ++ rest).length ≤ bound →
      ∃ last, arguments (orExpr bound (unary bound levels)) bound (inside ++ rest) = .ok (args, last) ∧
        skipBlanks last = skipBlanks rest) :
    Leaves (unary bound (levels + 1)) text (.call function args) rest := by
  obtain ⟨inside, layoutInside, hinside, hunary⟩ :=
    unary_call_layout layout hbound begins
  obtain ⟨last, hread, hlast⟩ := inner layoutInside hinside
  refine ⟨last, ?_, hlast⟩
  rw [hunary, bind_of_ok hread]
  show (if args.length = function.arity then _ else _) = _
  rw [if_pos arity]

end Unary

mutual

/-- On a disjunction the parser arrives at the end of its chain. -/
theorem disjunction_complete (bound : Nat) : ∀ {levels : Nat} {tokens : List Token} {expr : Expr}
    {text rest : List Char}, Grammar.Disjunction levels tokens expr → Layout tokens text →
      Unrelated rest → Text.stripPrefix? ['&', '&'] (skipBlanks rest) = none →
      (text ++ rest).length ≤ bound →
      Arrives .or ['|', '|'] (andExpr bound (unary bound levels)) (orExpr bound (unary bound levels))
        text expr rest
  | levels, tokens, expr, text, rest, .single derivation, layout, unrelated, noBoth, hbound => by
      have first := (conjunction_complete bound derivation layout unrelated hbound).leaves noBoth
      exact arrives_first (andExpr_sound (unary_sound bound levels)) first hbound
  | levels, _, _, text, rest, .join derivation conjunction, layout, unrelated, noBoth, hbound => by
      obtain ⟨a, blanks, spelling, b, rfl, layoutLeft, blank, spelled, layoutRight⟩ := layout.split_at
      cases spelled
      simp only [List.append_assoc] at hbound
      have before := disjunction_complete bound derivation layoutLeft
        (unrelated_symbol (.inr rfl) blank ('|' :: (b ++ rest)))
        (by rw [Text.skipBlanks_append blank]; rfl) hbound
      have next := (conjunction_complete bound conjunction layoutRight unrelated
        (by simp only [List.length_append] at hbound ⊢; omega)).leaves noBoth
      exact before.step (andExpr_sound (unary_sound bound levels)) blank (by decide) next

/-- On a conjunction the parser arrives at the end of its chain. -/
theorem conjunction_complete (bound : Nat) : ∀ {levels : Nat} {tokens : List Token} {expr : Expr}
    {text rest : List Char}, Grammar.Conjunction levels tokens expr → Layout tokens text →
      Unrelated rest → (text ++ rest).length ≤ bound →
      Arrives .and ['&', '&'] (compareExpr (unary bound levels)) (andExpr bound (unary bound levels))
        text expr rest
  | levels, tokens, expr, text, rest, .single derivation, layout, unrelated, hbound => by
      have first := compared_complete bound derivation layout unrelated hbound
      exact arrives_first (compareExpr_sound (unary_sound bound levels)) first hbound
  | levels, _, _, text, rest, .join derivation compared, layout, unrelated, hbound => by
      obtain ⟨a, blanks, spelling, b, rfl, layoutLeft, blank, spelled, layoutRight⟩ := layout.split_at
      cases spelled
      simp only [List.append_assoc] at hbound
      have before := conjunction_complete bound derivation layoutLeft
        (unrelated_symbol (.inl rfl) blank ('&' :: (b ++ rest))) hbound
      have next := compared_complete bound compared layoutRight unrelated
        (by simp only [List.length_append] at hbound ⊢; omega)
      exact before.step (compareExpr_sound (unary_sound bound levels)) blank (by decide) next

/-- A comparison that no relation follows is read whole. -/
theorem compared_complete (bound : Nat) : ∀ {levels : Nat} {tokens : List Token} {expr : Expr}
    {text rest : List Char}, Grammar.Compared levels tokens expr → Layout tokens text →
      Unrelated rest → (text ++ rest).length ≤ bound →
      Leaves (compareExpr (unary bound levels)) text expr rest
  | _, _, _, _, _, .single derivation, layout, unrelated, hbound =>
      compareExpr_single (unary_complete bound derivation layout unrelated.apart hbound) unrelated.noRelation
  | _, _, _, _, rest, .related relation first second, layout, unrelated, hbound => by
      obtain ⟨a, blanks, spelling, b, rfl, layoutLeft, blank, spelled, layoutRight⟩ := layout.split_at
      simp only [List.append_assoc] at hbound
      have left := unary_complete bound first layoutLeft
        (apart_relation spelled blank (b ++ rest)).1 hbound
      have right := unary_complete bound second layoutRight unrelated.apart
        (by simp only [List.length_append] at hbound ⊢; omega)
      obtain ⟨token, others, rfl, begins⟩ := second.exists_head
      exact compareExpr_related spelled blank (stopsAt_equals begins layoutRight rest) left right

/-- A unary is read whole when what follows is kept apart from it. -/
theorem unary_complete (bound : Nat) : ∀ {levels : Nat} {tokens : List Token} {expr : Expr}
    {text rest : List Char}, Grammar.Unary levels tokens expr → Layout tokens text → Apart rest →
      (text ++ rest).length ≤ bound → Leaves (unary bound levels) text expr rest
  | _, _, _, _, _, .not derivation, layout, apart, hbound =>
      unary_not layout hbound fun others => unary_complete bound derivation others apart
  | _, _, _, _, _, .primary (.group derivation), layout, _, hbound =>
      unary_group layout hbound fun inside closed hinside =>
        (disjunction_complete bound derivation inside closed.toUnrelated closed.noBoth hinside).leaves
          closed.noEither
  | _, _, _, _, _, .primary (.scalar _), layout, apart, _ => unary_scalar layout apart
  | _, _, _, _, _, .primary (.path _), layout, apart, hbound => unary_path layout apart hbound
  | _, _, _, _, _, .primary (.call derivation arity), layout, _, hbound =>
      unary_call layout hbound arity derivation.exists_head fun inside hinside =>
        arguments_complete bound derivation inside hinside hinside

/-- Arguments are read whole, with the parenthesis that closes them. -/
theorem arguments_complete (bound : Nat) : ∀ {levels most : Nat} {tokens : List Token} {args : List Expr}
    {text rest : List Char}, Grammar.Arguments levels tokens args →
      Layout (tokens ++ [.closeParen]) text → (text ++ rest).length ≤ bound →
      (text ++ rest).length ≤ most →
      ∃ last, arguments (orExpr bound (unary bound levels)) most (text ++ rest) = .ok (args, last) ∧
        skipBlanks last = skipBlanks rest
  | _, most, _, _, _, rest, .single derivation, layout, hbound, hmost => by
      obtain ⟨a, blanks, closing, b, rfl, inside, blank, spelled, behind⟩ := layout.split_at
      cases behind with
      | nil blankBehind =>
          cases spelled
          simp only [List.append_assoc] at hbound hmost ⊢
          have closed := closed_mark (.inl rfl) blank (b ++ rest)
          have inner := (disjunction_complete bound derivation inside closed.toUnrelated closed.noBoth
            hbound).leaves closed.noEither
          cases most with
          | zero => simp at hmost
          | succ most =>
              exact ⟨b ++ rest, arguments_single inner blank, Text.skipBlanks_append blankBehind rest⟩
  | _, most, _, _, _, rest, .more derivation others, layout, hbound, hmost => by
      rw [List.append_assoc, List.cons_append] at layout
      obtain ⟨a, blanks, comma, b, rfl, inside, blank, spelled, behind⟩ := layout.split_at
      cases spelled
      simp only [List.append_assoc] at hbound hmost ⊢
      have closed := closed_mark (.inr rfl) blank (b ++ rest)
      have inner := (disjunction_complete bound derivation inside closed.toUnrelated closed.noBoth
        hbound).leaves closed.noEither
      simp only [List.length_append, List.length_cons, List.length_nil] at hbound hmost
      cases most with
      | zero => omega
      | succ most =>
          obtain ⟨last, hread, hlast⟩ := @arguments_complete bound _ most _ _ b rest others behind
            (by rw [List.length_append]; omega) (by rw [List.length_append]; omega)
          exact ⟨last, (arguments_comma inner blank).trans (bind_of_ok hread _), hlast⟩

end

/-! ### Whole texts -/

/-- What derives within some levels is read with them, where nothing goes on with it. -/
theorem orExpr_complete {bound levels : Nat} {tokens : List Token} {expr : Expr} {text rest : List Char}
    (derivation : Grammar.Disjunction levels tokens expr) (layout : Layout tokens text)
    (closed : Closed rest) (hbound : (text ++ rest).length ≤ bound) :
    Leaves (orExpr bound (unary bound levels)) text expr rest :=
  (disjunction_complete bound derivation layout closed.toUnrelated closed.noBoth hbound).leaves
    closed.noEither

/-- One text has one reading, whatever its tokens and its levels are taken to be. -/
theorem Grammar.Disjunction.unique {levels others : Nat} {tokens otherTokens : List Token}
    {left right : Expr} {text : List Char} (derivation : Grammar.Disjunction levels tokens left)
    (layout : Layout tokens text) (other : Grammar.Disjunction others otherTokens right)
    (otherLayout : Layout otherTokens text) : left = right := by
  have hbound : (text ++ []).length ≤ text.length := by simp
  obtain ⟨last, hleft, -⟩ :=
    orExpr_complete (derivation.mono (Nat.le_max_left levels others)) layout closed_nil hbound
  obtain ⟨last', hright, -⟩ :=
    orExpr_complete (other.mono (Nat.le_max_right levels others)) otherLayout closed_nil hbound
  rw [hleft] at hright
  cases hright
  rfl

section Whole

variable {text : String} {expr : Expr} {last : List Char}

/-- A text is read as the expression behind which nothing but blanks is left. -/
theorem parse_ended
    (hread : orExpr text.toList.length (unary text.toList.length maxLevels) text.toList = .ok (expr, last))
    (hlast : skipBlanks last = []) : parse text = .ok expr := by
  have whole : wholeExpr text.toList = .ok expr := by
    rw [wholeExpr, bind_of_ok hread]
    simp only [hlast]
  rw [parse, whole]
  rfl

/-- A text is refused when something else is left. -/
theorem parse_trailing {c : Char} {rest : List Char}
    (hread : orExpr text.toList.length (unary text.toList.length maxLevels) text.toList = .ok (expr, last))
    (hlast : skipBlanks last = c :: rest) : ∃ fault, parse text = .error fault := by
  have whole : wholeExpr text.toList = .error (.at .trailingText (c :: rest)) := by
    rw [wholeExpr, bind_of_ok hread]
    simp only [hlast]
  rw [parse, whole]
  exact ⟨_, rfl⟩

/-- A text is refused when no expression begins it. -/
theorem parse_refused {stop : Stop}
    (hread : orExpr text.toList.length (unary text.toList.length maxLevels) text.toList = .error stop) :
    ∃ fault, parse text = .error fault := by
  have whole : wholeExpr text.toList = .error stop := by
    rw [wholeExpr, hread]
    rfl
  rw [parse, whole]
  exact ⟨_, rfl⟩

/-- A sentence is accepted and read as what it says. -/
theorem parse_of_sentence (h : Sentence text expr) : parse text = .ok expr := by
  obtain ⟨tokens, layout, derivation⟩ := h
  have hbound : (text.toList ++ []).length ≤ text.toList.length := by simp
  obtain ⟨last, hread, hlast⟩ := orExpr_complete derivation layout closed_nil hbound
  rw [List.append_nil] at hread
  exact parse_ended hread hlast

end Whole

/-- No text says two expressions. -/
theorem Sentence.unique {text : String} {left right : Expr} (hl : Sentence text left)
    (hr : Sentence text right) : left = right := by
  have hread := parse_of_sentence hl
  rw [parse_of_sentence hr] at hread
  cases hread
  rfl

/-- The parser accepts exactly the sentences of the grammar, each as the one expression that it says, and
    refuses every other text. Where the blanks stand in a layout of a derivation makes no difference. -/
theorem parse_agrees_with_grammar (text : String) :
    (∀ expr, parse text = .ok expr ↔ Sentence text expr) ∧
      ((∃! expr, Sentence text expr) ∨
        (∀ expr, ¬ Sentence text expr) ∧ ∃ fault, parse text = .error fault) ∧
      ∀ tokens expr, Grammar.Disjunction maxLevels tokens expr → Layout tokens text.toList →
        ∀ other : String, Layout tokens other.toList → parse text = .ok expr ∧ parse other = .ok expr := by
  refine ⟨fun expr => ⟨sentence_of_parse, parse_of_sentence⟩, ?_, ?_⟩
  · cases hread : parse text with
    | ok expr =>
        left
        have sentence := sentence_of_parse hread
        exact ⟨expr, sentence, fun other hother => hother.unique sentence⟩
    | error fault =>
        right
        refine ⟨fun expr sentence => ?_, fault, rfl⟩
        rw [parse_of_sentence sentence] at hread
        cases hread
  · intro tokens expr derivation layout other layoutOther
    exact ⟨parse_of_sentence ⟨tokens, layout, derivation⟩,
      parse_of_sentence ⟨tokens, layoutOther, derivation⟩⟩

end FilterTree.Predicate
