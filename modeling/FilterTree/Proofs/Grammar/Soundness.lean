/-
Module: FilterTree.Proofs.Grammar.Soundness
Layer: Proofs
Purpose: What the parser accepts is derived. Every parser that succeeds took a layout of tokens off the front
  of its text, and those tokens derive the expression that it gives back. The levels of a derivation are
  the levels that the parser had left.
Imports: FilterTree.Proofs.Grammar.Tokens
Main exports: Sound, unary_sound, orExpr_sound, sentence_of_parse
-/
import FilterTree.Proofs.Grammar.Tokens

namespace FilterTree.Predicate

open Text (skipBlanks)

/-- A parser takes nothing but layouts of tokens that derive what it gives back. -/
def Sound (derives : List Token → Expr → Prop) (parser : Parser) : Prop :=
  ∀ (text rest : List Char) (expr : Expr), parser text = .ok (expr, rest) →
    ∃ tokens taken, text = taken ++ rest ∧ Layout tokens taken ∧ derives tokens expr

/-- What is taken behind skipped blanks is taken with the blanks in front of it. -/
theorem taken_behind_blanks {derives : List Token → Expr → Prop} {text rest : List Char} {expr : Expr}
    (h : ∃ tokens taken, skipBlanks text = taken ++ rest ∧ Layout tokens taken ∧ derives tokens expr) :
    ∃ tokens taken, text = taken ++ rest ∧ Layout tokens taken ∧ derives tokens expr := by
  obtain ⟨tokens, taken, htext, layout, derivation⟩ := h
  obtain ⟨blanks, blank, hblanks⟩ := Text.exists_blanks text
  refine ⟨tokens, blanks ++ taken, ?_, layout.blanks_append blank, derivation⟩
  rw [List.append_assoc, ← htext]
  exact hblanks

/-! ### Chains and comparisons -/

theorem stripPrefix?_eq_some {start text rest : List Char}
    (h : Text.stripPrefix? start text = some rest) : text = start ++ rest := by
  induction start generalizing text with
  | nil =>
      cases h
      rfl
  | cons s start ih =>
      cases text with
      | nil => cases h
      | cons c text =>
          rw [Text.stripPrefix?] at h
          split at h
          · rename_i hc
            rw [hc, ih h, List.cons_append]
          · cases h

/-- A chain goes on with the derivation of what stands before it. Its symbol is the spelling of `token`. -/
theorem chain_sound {chained operand : List Token → Expr → Prop} {join : Expr → Expr → Expr}
    {symbol : List Char} {token : Token} {parser : Parser} (spelled : token.Spelled symbol)
    (sound : Sound operand parser)
    (joined : ∀ {before after left right}, chained before left → operand after right →
      chained (before ++ token :: after) (join left right)) :
    ∀ {bound : Nat} {left : Expr} {before : List Token} {taken text rest : List Char} {expr : Expr},
      Layout before taken → chained before left → chain join symbol parser bound left text = .ok (expr, rest) →
      ∃ tokens taken', taken ++ text = taken' ++ rest ∧ Layout tokens taken' ∧ chained tokens expr
  | 0, left, before, taken, text, rest, expr, layout, derivation, h => by
      cases h
      exact ⟨before, taken, rfl, layout, derivation⟩
  | bound + 1, left, before, taken, text, rest, expr, layout, derivation, h => by
      obtain ⟨blanks, blank, hblanks⟩ := Text.exists_blanks text
      rw [chain] at h
      cases hsymbol : Text.stripPrefix? symbol (skipBlanks text) with
      | none =>
          simp only [hsymbol] at h
          cases h
          refine ⟨before ++ [], taken ++ blanks, ?_, layout.append (.nil blank), by simpa using derivation⟩
          rw [List.append_assoc, ← hblanks]
      | some after =>
          simp only [hsymbol] at h
          obtain ⟨⟨right, behind⟩, hright, hchain⟩ := bind_eq_ok h
          obtain ⟨tokens, takenRight, hafter, layoutRight, derivationRight⟩ := sound _ _ _ hright
          have layoutBoth : Layout (before ++ token :: tokens)
              (taken ++ (blanks ++ (symbol ++ takenRight))) :=
            layout.append (.cons blank spelled layoutRight)
          obtain ⟨all, takenAll, htext, layoutAll, derivationAll⟩ :=
            chain_sound spelled sound joined layoutBoth (joined derivation derivationRight) hchain
          refine ⟨all, takenAll, ?_, layoutAll, derivationAll⟩
          rw [← htext, hblanks, stripPrefix?_eq_some hsymbol, hafter]
          simp

/-- A comparison of sound unaries is sound. -/
theorem compareExpr_sound {levels : Nat} {parser : Parser} (sound : Sound (Grammar.Unary levels) parser) :
    Sound (Grammar.Compared levels) (compareExpr parser) := by
  intro text rest expr h
  obtain ⟨⟨left, behind⟩, hleft, hmore⟩ := bind_eq_ok h
  obtain ⟨before, taken, rfl, layout, derivation⟩ := sound _ _ _ hleft
  obtain ⟨blanks, blank, hblanks⟩ := Text.exists_blanks behind
  cases hrelation : relation? (skipBlanks behind) with
  | none =>
      simp only [hrelation] at hmore
      cases hmore
      refine ⟨before ++ [], taken ++ blanks, ?_, layout.append (.nil blank), ?_⟩
      · rw [List.append_assoc, ← hblanks]
      · simpa using Grammar.Compared.single derivation
  | some pair =>
      obtain ⟨relation, after⟩ := pair
      simp only [hrelation] at hmore
      obtain ⟨⟨right, last⟩, hright, hpair⟩ := bind_eq_ok hmore
      cases hpair
      obtain ⟨spelling, hspelling, spelled⟩ := relation?_sound hrelation
      obtain ⟨tokens, takenRight, rfl, layoutRight, derivationRight⟩ := sound _ _ _ hright
      refine ⟨before ++ .relation relation :: tokens, taken ++ (blanks ++ (spelling ++ takenRight)), ?_,
        layout.append (.cons blank spelled layoutRight), .related relation derivation derivationRight⟩
      rw [hblanks, hspelling]
      simp

/-- A conjunction of sound unaries is sound. -/
theorem andExpr_sound {levels bound : Nat} {parser : Parser}
    (sound : Sound (Grammar.Unary levels) parser) :
    Sound (Grammar.Conjunction levels) (andExpr bound parser) := by
  intro text rest expr h
  obtain ⟨⟨left, behind⟩, hleft, hchain⟩ := bind_eq_ok h
  obtain ⟨before, taken, rfl, layout, derivation⟩ := compareExpr_sound sound _ _ _ hleft
  exact chain_sound .both (compareExpr_sound sound) .join layout (.single derivation) hchain

/-- A disjunction of sound unaries is sound. -/
theorem orExpr_sound {levels bound : Nat} {parser : Parser}
    (sound : Sound (Grammar.Unary levels) parser) :
    Sound (Grammar.Disjunction levels) (orExpr bound parser) := by
  intro text rest expr h
  obtain ⟨⟨left, behind⟩, hleft, hchain⟩ := bind_eq_ok h
  obtain ⟨before, taken, rfl, layout, derivation⟩ := andExpr_sound sound _ _ _ hleft
  exact chain_sound .either (andExpr_sound sound) .join layout (.single derivation) hchain

/-! ### Primaries -/

/-- Arguments that are read are derived, up to the closing parenthesis, which is taken with them. -/
theorem arguments_sound {levels : Nat} {inner : Parser} (sound : Sound (Grammar.Disjunction levels) inner) :
    ∀ {bound : Nat} {text rest : List Char} {args : List Expr},
      arguments inner bound text = .ok (args, rest) →
      ∃ tokens taken, text = taken ++ rest ∧ Layout (tokens ++ [.closeParen]) taken ∧
        Grammar.Arguments levels tokens args
  | 0, text, rest, args, h => by cases h
  | bound + 1, text, rest, args, h => by
      obtain ⟨⟨arg, behind⟩, harg, hmore⟩ := bind_eq_ok h
      obtain ⟨tokens, taken, rfl, layout, derivation⟩ := sound _ _ _ harg
      obtain ⟨blanks, blank, hblanks⟩ := Text.exists_blanks behind
      simp only at hmore
      split at hmore
      case h_1 after hcomma =>
        obtain ⟨⟨args, last⟩, hargs, hpair⟩ := bind_eq_ok hmore
        cases hpair
        obtain ⟨others, takenOthers, rfl, layoutOthers, derivationOthers⟩ := arguments_sound sound hargs
        refine ⟨tokens ++ .comma :: others, taken ++ (blanks ++ ([','] ++ takenOthers)), ?_, ?_,
          .more derivation derivationOthers⟩
        · rw [hblanks, hcomma]
          simp
        · rw [List.append_assoc]
          exact layout.append (.cons blank .comma layoutOthers)
      case h_2 after hclose =>
        cases hmore
        refine ⟨tokens, taken ++ (blanks ++ ([')'] ++ [])), ?_,
          layout.append (.cons blank .closeParen (.nil rfl)), .single derivation⟩
        rw [hblanks, hclose]
        simp
      case h_3 => cases hmore

/-- A call with something in its parentheses is its arguments, counted. -/
theorem call_open {bound : Nat} {inner : Parser} {function : Function} {text after : List Char}
    (hopen : skipBlanks text = '(' :: after) (hargs : ∀ rest, skipBlanks after ≠ ')' :: rest) :
    call bound inner function text = arguments inner bound (skipBlanks after) >>= fun (args, rest) =>
      if args.length = function.arity then .ok (.call function args, rest)
      else .error (.fault (.arity function args.length)) := by
  unfold call
  rw [hopen]
  simp only

/-- A call with nothing in its parentheses is refused: every function takes an argument. -/
theorem call_empty {bound : Nat} {inner : Parser} {function : Function} {text after rest : List Char}
    (hopen : skipBlanks text = '(' :: after) (hclose : skipBlanks after = ')' :: rest) :
    call bound inner function text = .error (.fault (.arity function 0)) := by
  unfold call
  rw [hopen]
  simp only [hclose]
  cases function <;> rfl

/-- A call that is read has its arguments in parentheses, as many as the function takes. -/
theorem call_sound {levels bound : Nat} {inner : Parser} {function : Function} {text rest : List Char}
    {expr : Expr} (sound : Sound (Grammar.Disjunction levels) inner)
    (h : call bound inner function text = .ok (expr, rest)) :
    ∃ tokens taken args, text = taken ++ rest ∧ Layout (.openParen :: (tokens ++ [.closeParen])) taken ∧
      Grammar.Arguments levels tokens args ∧ args.length = function.arity ∧
      expr = .call function args := by
  obtain ⟨blanks, blank, hblanks⟩ := Text.exists_blanks text
  by_cases hopen : ∃ after, skipBlanks text = '(' :: after
  · obtain ⟨after, hopen⟩ := hopen
    by_cases hclose : ∃ rest, skipBlanks after = ')' :: rest
    · obtain ⟨last, hclose⟩ := hclose
      rw [call_empty hopen hclose] at h
      cases h
    · rw [call_open hopen (not_exists.mp hclose)] at h
      obtain ⟨⟨args, last⟩, hargs, hfinish⟩ := bind_eq_ok h
      simp only at hfinish
      split at hfinish
      case isFalse => cases hfinish
      case isTrue arity =>
        cases hfinish
        obtain ⟨tokens, taken, htaken, layout, derivation⟩ := arguments_sound sound hargs
        obtain ⟨inside, insideBlank, hinside⟩ := Text.exists_blanks after
        refine ⟨tokens, blanks ++ (['('] ++ (inside ++ taken)), args, ?_,
          .cons blank .openParen (layout.blanks_append insideBlank), derivation, arity, rfl⟩
        rw [hblanks, hopen, hinside, htaken]
        simp
  · unfold call at h
    split at h
    case h_1 after heq => exact absurd ⟨after, heq⟩ hopen
    case h_2 => cases h

/-- A keyword spells its scalar. -/
theorem keyword?_sound {name : List Char} {value : Scalar}
    (h : keyword? (String.ofList name) = some value) : (Token.scalar value).Spelled name := by
  have hname : ∀ {word : String}, String.ofList name = word → name = word.toList := by
    rintro word rfl
    exact String.toList_ofList.symm
  unfold keyword? at h
  split at h <;> cases h <;> rename_i heq <;> rw [hname heq]
  · exact .bool true
  · exact .bool false
  · exact .null
  · exact .undefined

/-- A name that calls a function spells it. -/
theorem ofName?_sound {name : List Char} {function : Function}
    (h : Function.ofName? (String.ofList name) = some function) : name = function.name.toList := by
  have hfound := List.find?_some h
  rw [beq_iff_eq] at hfound
  rw [hfound, String.toList_ofList]

/-- What a word begins is derived. -/
theorem word_sound {levels bound : Nat} {inner : Parser} (sound : Sound (Grammar.Disjunction levels) inner) :
    Sound (Grammar.Primary levels) (word bound inner) := by
  intro text rest expr h
  have hrun := (List.takeWhile_append_dropWhile (p := Text.isNameChar) (l := text)).symm
  simp only [word] at h
  split at h
  case isTrue => cases h
  case isFalse =>
    split at h
    case isTrue hrecord =>
      obtain ⟨⟨names, last⟩, hsteps, hpair⟩ := bind_eq_ok h
      cases hpair
      obtain ⟨tail, htail, joined⟩ := steps_sound hsteps
      have hname : text.takeWhile Text.isNameChar = ['r', 'e', 'c', 'o', 'r', 'd'] := by
        simpa using congrArg String.toList hrecord
      refine ⟨_, _, ?_, .single (.path joined), .path names⟩
      rw [List.append_assoc, ← htail, ← hname]
      exact hrun
    case isFalse =>
      split at h
      case h_1 hkeyword =>
        cases h
        exact ⟨_, _, hrun, .single (keyword?_sound hkeyword), .scalar _⟩
      case h_2 function _ hfunction =>
        obtain ⟨tokens, taken, args, htaken, layout, derivation, arity, rfl⟩ := call_sound sound h
        refine ⟨_, text.takeWhile Text.isNameChar ++ taken, ?_,
          (Layout.single ?_).append layout, .call derivation arity⟩
        · rw [List.append_assoc, ← htaken]
          exact hrun
        · rw [ofName?_sound hfunction]
          exact .function function
      case h_3 => cases h

/-- What parentheses enclose is derived. -/
theorem group_sound {levels : Nat} {inner : Parser} {text rest : List Char} {expr : Expr}
    (sound : Sound (Grammar.Disjunction levels) inner) (h : group inner text = .ok (expr, rest)) :
    ∃ tokens taken, '(' :: text = taken ++ rest ∧ Layout tokens taken ∧
      Grammar.Primary levels tokens expr := by
  obtain ⟨⟨expr, behind⟩, hinner, hclose⟩ := bind_eq_ok h
  obtain ⟨tokens, taken, rfl, layout, derivation⟩ := sound _ _ _ hinner
  obtain ⟨blanks, blank, hblanks⟩ := Text.exists_blanks behind
  simp only at hclose
  split at hclose
  case h_1 after hafter =>
    cases hclose
    have layoutAll : Layout (.openParen :: (tokens ++ [.closeParen]))
        ([] ++ (['('] ++ (taken ++ (blanks ++ ([')'] ++ []))))) :=
      .cons rfl .openParen (layout.append (.cons blank .closeParen (.nil rfl)))
    refine ⟨_, _, ?_, layoutAll, .group derivation⟩
    rw [hblanks, hafter]
    simp
  case h_2 => cases hclose

/-- A primary that is read is derived. -/
theorem primary_sound {levels bound : Nat} {inner : Parser}
    (sound : Sound (Grammar.Disjunction levels) inner) :
    Sound (Grammar.Primary levels) (primary bound inner) := by
  have quoted : ∀ {mark : Char} {text rest : List Char} {expr : Expr}, mark = '\'' ∨ mark = '"' →
      literal mark text = .ok (expr, rest) →
      ∃ tokens taken, mark :: text = taken ++ rest ∧ Layout tokens taken ∧
        Grammar.Primary levels tokens expr := by
    intro mark text rest expr quotes h
    obtain ⟨inside, value, rfl, enclosed, rfl⟩ := literal_sound h
    exact ⟨_, _, by simp, .single (.text quotes enclosed), .scalar _⟩
  intro text rest expr h
  unfold primary at h
  split at h
  case h_1 => exact group_sound sound h
  case h_2 => exact quoted (.inl rfl) h
  case h_3 => exact quoted (.inr rfl) h
  case h_4 =>
    split at h
    case isTrue starts =>
      obtain ⟨spelling, value, htext, spelled, rfl⟩ := number_sound starts h
      exact ⟨_, _, htext, .single spelled, .scalar _⟩
    case isFalse => exact word_sound sound _ _ _ h

/-! ### Unaries and whole texts -/

/-- A unary that is read is derived within the levels that the parser had left. -/
theorem unary_sound (bound levels : Nat) : Sound (Grammar.Unary levels) (unary bound levels) := by
  induction levels with
  | zero =>
      intro text rest expr h
      cases h
  | succ levels ih =>
      intro text rest expr h
      apply taken_behind_blanks
      unfold unary at h
      split at h
      case h_1 after hbang =>
        obtain ⟨⟨operand, last⟩, hoperand, hpair⟩ := bind_eq_ok h
        cases hpair
        obtain ⟨tokens, taken, rfl, layout, derivation⟩ := ih _ _ _ hoperand
        exact ⟨_, _, by rw [hbang]; simp, (Layout.single .bang).append layout, .not derivation⟩
      case h_2 =>
        obtain ⟨tokens, taken, htext, layout, derivation⟩ := primary_sound (orExpr_sound ih) _ _ _ h
        exact ⟨tokens, taken, htext, layout, .primary derivation⟩

/-- A text that is accepted says what it is read as. -/
theorem sentence_of_parse {text : String} {expr : Expr} (h : parse text = .ok expr) :
    Sentence text expr := by
  rw [parse] at h
  cases hwhole : wholeExpr text.toList with
  | error stop => rw [hwhole] at h; cases h
  | ok found =>
      rw [hwhole] at h
      cases h
      obtain ⟨⟨found, rest⟩, hread, hend⟩ := bind_eq_ok hwhole
      obtain ⟨tokens, taken, htext, layout, derivation⟩ := orExpr_sound (unary_sound _ _) _ _ _ hread
      simp only at hend
      split at hend
      case h_1 hblank =>
        cases hend
        refine ⟨tokens ++ [], ?_, by simpa using derivation⟩
        rw [htext]
        exact layout.append (.nil (Text.skipBlanks_eq_nil_iff.mp hblank))
      case h_2 => cases hend

end FilterTree.Predicate
