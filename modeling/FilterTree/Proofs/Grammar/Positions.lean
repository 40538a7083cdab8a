/-
Module: FilterTree.Proofs.Grammar.Positions
Layer: Proofs
Purpose: Where the parser stops. Every parser that fails with a problem fails at a place of its own text, which is
  told by what is left behind it; a literal that is not closed is told at the end. So the position of a fault is
  the size of a part of the text that begins it. Where the text goes on behind an expression, the part in front
  of that place is a sentence: the parser took a layout of tokens, and a layout does not ask what follows it.
Imports: FilterTree.Proofs.Grammar.Completeness
Main exports: Placed, StopsInside, unary_stopsInside, parse_error_position
-/
import FilterTree.Proofs.Grammar.Completeness

namespace FilterTree.Predicate

open Text (skipBlanks isBlankText)

/-! ### Places -/

/-- A stop inside a text: a problem at one of its places, which for an open literal is its end, or a fault that has
    no place. That something stands behind an expression is no problem of any part of a text. -/
inductive Placed (text : List Char) : Stop → Prop where
  | place {problem : Problem} {before rest : List Char} (splits : text = before ++ rest)
      (inner : problem ≠ .trailingText) (ended : problem = .openLiteral → rest = []) :
      Placed text (.at problem rest)
  | arity (function : Function) (given : Nat) : Placed text (.fault (.arity function given))
  | unknown (name : String) : Placed text (.fault (.unknownFunction name))

namespace Placed

variable {text rest : List Char} {stop : Stop}

/-- A problem may stand where the text begins, unless it tells of an end. -/
theorem here {problem : Problem} (inner : problem ≠ .trailingText) (closed : problem ≠ .openLiteral) :
    Placed text (.at problem text) :=
  .place (List.nil_append text).symm inner fun ended => absurd ended closed

/-- A place of the rest of a text is a place of the text. -/
theorem behind {taken : List Char} (h : Placed rest stop) : Placed (taken ++ rest) stop := by
  cases h with
  | place splits inner ended => exact .place (by rw [splits, List.append_assoc]) inner ended
  | arity function given => exact .arity function given
  | unknown name => exact .unknown name

/-- So is a place behind the blanks in front of a text. -/
theorem behind_blanks (h : Placed (skipBlanks text) stop) : Placed text stop := by
  obtain ⟨blanks, -, htext⟩ := Text.exists_blanks text
  rw [htext]
  exact h.behind

/-- And a place behind a run of characters at the front of a text. -/
theorem behind_run {p : Char → Bool} (h : Placed (text.dropWhile p) stop) : Placed text stop := by
  rw [← List.takeWhile_append_dropWhile (p := p) (l := text)]
  exact h.behind

end Placed

/-- A parser that fails does so inside its text. -/
def StopsInside (parser : Parser) : Prop :=
  ∀ (text : List Char) (stop : Stop), parser text = .error stop → Placed text stop

/-- What fails behind something that a sound parser took fails inside the text. -/
theorem Sound.placed {derives : List Token → Expr → Prop} {parser : Parser} (sound : Sound derives parser)
    {text rest : List Char} {expr : Expr} {stop : Stop} (h : parser text = .ok (expr, rest))
    (placed : Placed rest stop) : Placed text stop := by
  obtain ⟨tokens, taken, rfl, -, -⟩ := sound _ _ _ h
  exact placed.behind

/-! ### Single tokens -/

theorem literal_stopsInside (mark : Char) : StopsInside (literal mark) := by
  intro text stop h
  rw [literal] at h
  split at h
  · cases h
  · cases h
    exact .place (List.append_nil text).symm (by simp) fun _ => rfl

theorem number_stopsInside : StopsInside number := by
  intro text stop h
  simp only [number] at h
  split at h
  · cases h
  · cases h
    exact .here (by simp) (by simp)

theorem steps_placed : ∀ {bound : Nat} {text : List Char} {stop : Stop}, steps bound text = .error stop →
    Placed text stop
  | 0, _, _, h => by cases h
  | bound + 1, text, stop, h => by
      simp only [steps] at h
      split at h
      case h_1 => cases h
      case h_2 after hjoint =>
        obtain ⟨joint, rfl, -⟩ := stepJoint?_sound hjoint
        split at h
        case isTrue =>
          cases h
          exact (Placed.here (by simp) (by simp)).behind
        case isFalse =>
          rcases bind_eq_error h with hsteps | ⟨_, _, hpair⟩
          · exact (steps_placed hsteps).behind_run.behind
          · cases hpair

/-! ### Chains and comparisons -/

section Chains

variable {derives : List Token → Expr → Prop} {operand reader : Parser}

theorem chain_placed (sound : Sound derives operand) (inside : StopsInside operand)
    {join : Expr → Expr → Expr} {symbol : List Char} : ∀ {bound : Nat} {left : Expr} {text : List Char}
      {stop : Stop}, chain join symbol operand bound left text = .error stop → Placed text stop
  | 0, _, _, _, h => by cases h
  | bound + 1, left, text, stop, h => by
      apply Placed.behind_blanks
      rw [chain] at h
      cases hsymbol : Text.stripPrefix? symbol (skipBlanks text) with
      | none =>
          rw [hsymbol] at h
          cases h
      | some after =>
          rw [hsymbol] at h
          rw [stripPrefix?_eq_some hsymbol]
          apply Placed.behind
          rcases bind_eq_error h with hoperand | ⟨⟨right, rest⟩, hoperand, hchain⟩
          · exact inside _ _ hoperand
          · exact sound.placed hoperand (chain_placed sound inside hchain)

/-- So an operand and a chain behind it fail inside their text. -/
theorem chained_stopsInside (sound : Sound derives operand) (inside : StopsInside operand)
    {join : Expr → Expr → Expr} {symbol : List Char} {bound : Nat} :
    StopsInside fun text => operand text >>= fun (left, rest) => chain join symbol operand bound left rest := by
  intro text stop h
  rcases bind_eq_error h with hfirst | ⟨⟨left, rest⟩, hfirst, hchain⟩
  · exact inside _ _ hfirst
  · exact sound.placed hfirst (chain_placed sound inside hchain)

theorem compareExpr_stopsInside (sound : Sound derives reader) (inside : StopsInside reader) :
    StopsInside (compareExpr reader) := by
  intro text stop h
  rcases bind_eq_error h with hfirst | ⟨⟨left, rest⟩, hfirst, hmore⟩
  · exact inside _ _ hfirst
  · refine sound.placed hfirst (Placed.behind_blanks ?_)
    simp only at hmore
    split at hmore
    case h_1 => cases hmore
    case h_2 relation after hrelation =>
      obtain ⟨spelling, hspelling, -⟩ := relation?_sound hrelation
      rw [hspelling]
      rcases bind_eq_error hmore with hsecond | ⟨_, _, hpair⟩
      · exact (inside _ _ hsecond).behind
      · cases hpair

end Chains

section Levels

variable {bound levels : Nat} {reader : Parser}

theorem andExpr_stopsInside (sound : Sound (Grammar.Unary levels) reader) (inside : StopsInside reader) :
    StopsInside (andExpr bound reader) :=
  chained_stopsInside (compareExpr_sound sound) (compareExpr_stopsInside sound inside)

theorem orExpr_stopsInside (sound : Sound (Grammar.Unary levels) reader) (inside : StopsInside reader) :
    StopsInside (orExpr bound reader) :=
  chained_stopsInside (andExpr_sound sound) (andExpr_stopsInside sound inside)

end Levels

/-! ### Primaries -/

section Primaries

variable {levels bound : Nat} {inner : Parser}

theorem arguments_placed (sound : Sound (Grammar.Disjunction levels) inner) (inside : StopsInside inner) :
    ∀ {bound : Nat} {text : List Char} {stop : Stop}, arguments inner bound text = .error stop →
      Placed text stop
  | 0, _, _, h => by
      cases h
      exact .here (by simp) (by simp)
  | bound + 1, text, stop, h => by
      rcases bind_eq_error h with hfirst | ⟨⟨arg, rest⟩, hfirst, hmore⟩
      · exact inside _ _ hfirst
      · refine sound.placed hfirst (Placed.behind_blanks ?_)
        simp only at hmore
        split at hmore
        case h_1 after hcomma =>
          rw [hcomma]
          rcases bind_eq_error hmore with hothers | ⟨_, _, hpair⟩
          · exact @Placed.behind _ _ [','] (arguments_placed sound inside hothers)
          · cases hpair
        case h_2 => cases hmore
        case h_3 =>
          cases hmore
          exact .here (by simp) (by simp)

theorem call_stopsInside (function : Function) (sound : Sound (Grammar.Disjunction levels) inner)
    (inside : StopsInside inner) : StopsInside (call bound inner function) := by
  intro text stop h
  apply Placed.behind_blanks
  by_cases hopen : ∃ after, skipBlanks text = '(' :: after
  · obtain ⟨after, hopen⟩ := hopen
    by_cases hclose : ∃ rest, skipBlanks after = ')' :: rest
    · obtain ⟨rest, hclose⟩ := hclose
      rw [call_empty hopen hclose] at h
      cases h
      exact .arity function 0
    · rw [call_open hopen (not_exists.mp hclose)] at h
      rw [hopen]
      rcases bind_eq_error h with hargs | ⟨⟨args, rest⟩, -, hcount⟩
      · exact @Placed.behind _ _ ['('] (arguments_placed sound inside hargs).behind_blanks
      · simp only at hcount
        split at hcount
        · cases hcount
        · cases hcount
          exact .arity function args.length
  · unfold call at h
    split at h
    case h_1 after heq => exact absurd ⟨after, heq⟩ hopen
    case h_2 =>
      cases h
      exact .here (by simp) (by simp)

theorem word_stopsInside (sound : Sound (Grammar.Disjunction levels) inner) (inside : StopsInside inner) :
    StopsInside (word bound inner) := by
  intro text stop h
  simp only [word] at h
  split at h
  case isTrue =>
    cases h
    exact .here (by simp) (by simp)
  case isFalse =>
    split at h
    case isTrue =>
      rcases bind_eq_error h with hsteps | ⟨_, _, hpair⟩
      · exact (steps_placed hsteps).behind_run
      · cases hpair
    case isFalse =>
      split at h
      case h_1 => cases h
      case h_2 function _ _ => exact (call_stopsInside function sound inside _ _ h).behind_run
      case h_3 =>
        cases h
        exact .unknown _

theorem group_stopsInside (sound : Sound (Grammar.Disjunction levels) inner) (inside : StopsInside inner) :
    StopsInside (group inner) := by
  intro text stop h
  rcases bind_eq_error h with hinner | ⟨⟨expr, rest⟩, hinner, hclose⟩
  · exact inside _ _ hinner
  · refine sound.placed hinner (Placed.behind_blanks ?_)
    simp only at hclose
    split at hclose
    · cases hclose
    · cases hclose
      exact .here (by simp) (by simp)

theorem primary_stopsInside (sound : Sound (Grammar.Disjunction levels) inner) (inside : StopsInside inner) :
    StopsInside (primary bound inner) := by
  intro text stop h
  unfold primary at h
  split at h
  case h_1 => exact @Placed.behind _ _ ['('] (group_stopsInside sound inside _ _ h)
  case h_2 => exact @Placed.behind _ _ ['\''] (literal_stopsInside _ _ _ h)
  case h_3 => exact @Placed.behind _ _ ['"'] (literal_stopsInside _ _ _ h)
  case h_4 =>
    split at h
    · exact number_stopsInside _ _ h
    · exact word_stopsInside sound inside _ _ h

end Primaries

/-- A unary fails inside its text, whatever the levels are that are left. -/
theorem unary_stopsInside (bound levels : Nat) : StopsInside (unary bound levels) := by
  induction levels with
  | zero =>
      intro text stop h
      cases h
      exact .here (by simp) (by simp)
  | succ levels ih =>
      intro text stop h
      apply Placed.behind_blanks
      unfold unary at h
      split at h
      case h_1 after hbang =>
        rw [hbang]
        rcases bind_eq_error h with hoperand | ⟨_, _, hpair⟩
        · exact @Placed.behind _ _ ['!'] (ih _ _ hoperand)
        · cases hpair
      case h_2 =>
        have sound := unary_sound bound levels
        exact primary_stopsInside (orExpr_sound sound) (orExpr_stopsInside sound ih) _ _ h

/-! ### Whole texts -/

/-- A whole text fails inside, or because something stands behind its expression. -/
theorem wholeExpr_error {text : List Char} {stop : Stop} (h : wholeExpr text = .error stop) :
    Placed text stop ∨ ∃ expr last c rest,
      orExpr text.length (unary text.length maxLevels) text = .ok (expr, last) ∧
        skipBlanks last = c :: rest ∧ stop = .at .trailingText (c :: rest) := by
  have sound := unary_sound text.length maxLevels
  rcases bind_eq_error h with hread | ⟨⟨expr, last⟩, hread, hend⟩
  · exact .inl (orExpr_stopsInside sound (unary_stopsInside _ _) _ _ hread)
  · simp only at hend
    cases hlast : skipBlanks last with
    | nil =>
        rw [hlast] at hend
        cases hend
    | cons c rest =>
        rw [hlast] at hend
        cases hend
        exact .inr ⟨expr, last, c, rest, hread, hlast, rfl⟩

/-- What stands in front of a place is told by the size of what stands behind it, and a string may be cut there. -/
theorem place_of_split {text : String} {before after : List Char} (splits : text.toList = before ++ after) :
    text = String.ofList before ++ String.ofList after ∧
      Text.utf8Size text.toList - Text.utf8Size after = (String.ofList before).utf8ByteSize ∧
      (String.Pos.Raw.mk (String.ofList before).utf8ByteSize).IsValid text := by
  have joined : text = String.ofList before ++ String.ofList after := by
    rw [← String.ofList_append, ← splits, String.ofList_toList]
  refine ⟨joined, ?_, String.Pos.Raw.isValid_iff_exists_append.mpr ⟨_, _, joined, rfl⟩⟩
  rw [splits, Text.utf8Size_append, ← Text.utf8Size_eq, Nat.add_sub_cancel]

/-- What is read in front of a place where the text goes on is a sentence by itself. -/
theorem parse_before {text last rest : List Char} {c : Char} {expr : Expr} {bound : Nat}
    (hread : orExpr bound (unary bound maxLevels) text = .ok (expr, last)) (hlast : skipBlanks last = c :: rest) :
    ∃ before, text = before ++ c :: rest ∧ parse (String.ofList before) = .ok expr := by
  obtain ⟨tokens, taken, rfl, layout, derivation⟩ := orExpr_sound (unary_sound bound maxLevels) _ _ _ hread
  obtain ⟨blanks, blank, hblanks⟩ := Text.exists_blanks last
  refine ⟨taken ++ blanks, ?_, parse_of_sentence ⟨tokens ++ [], ?_, by simpa using derivation⟩⟩
  · rw [List.append_assoc, ← hlast, ← hblanks]
  · rw [String.toList_ofList]
    exact layout.append (.nil blank)

/-- Positions of faults can be used. A text that is malformed at a position falls into a part in front of it, whose
    bytes the position counts, and a part behind it, so the text may be cut there. A literal that is not closed is
    told at the end of the text. Where the text goes on behind an expression, the part behind begins with a
    character that is no blank, and the part in front is accepted by itself. -/
theorem parse_error_position {text : String} {position : Nat} {problem : Problem}
    (h : parse text = .error (.malformed position problem)) :
    ∃ before after : String, text = before ++ after ∧ position = before.utf8ByteSize ∧
      position ≤ text.utf8ByteSize ∧ (String.Pos.Raw.mk position).IsValid text ∧
      (problem = .openLiteral → position = text.utf8ByteSize) ∧
      (problem = .trailingText → ∃ c rest expr, after.toList = c :: rest ∧ Text.isBlank c = false ∧
        parse before = .ok expr) := by
  rw [parse] at h
  cases hwhole : wholeExpr text.toList with
  | ok expr =>
      rw [hwhole] at h
      cases h
  | error stop =>
      rw [hwhole] at h
      rcases wholeExpr_error hwhole with placed | ⟨expr, last, c, rest, hread, hlast, rfl⟩
      · cases placed with
        | @place _ before rest splits inner ended =>
            cases h
            obtain ⟨joined, hposition, valid⟩ := place_of_split splits
            rw [hposition]
            refine ⟨_, _, joined, rfl, valid.le_utf8ByteSize, valid, fun opened => ?_,
              fun trailing => absurd trailing inner⟩
            rw [ended opened, String.ofList_nil, String.append_empty] at joined
            rw [← joined]
        | arity | unknown => cases h
      · cases h
        obtain ⟨before, splits, haccepted⟩ := parse_before hread hlast
        obtain ⟨joined, hposition, valid⟩ := place_of_split splits
        rw [hposition]
        refine ⟨_, _, joined, rfl, valid.le_utf8ByteSize, valid, fun opened => ?_,
          fun _ => ⟨c, rest, expr, ?_, ?_, haccepted⟩⟩
        · cases opened
        · exact String.toList_ofList
        · exact Text.isBlank_head_skipBlanks hlast

/-- A name behind a field that ends at a blank, and a literal without its closing mark, both behind letters of more
    than one byte. -/
theorem parse_error_position_of_letters :
    parse "record.größe name" = .error (.malformed 15 .trailingText) ∧
      (∃ before after : String, "record.größe name" = before ++ after ∧ 15 = before.utf8ByteSize ∧
        ∃ expr, parse before = .ok expr) ∧
      parse "record.größe == 'a" = .error (.malformed 20 .openLiteral) ∧
      20 = "record.größe == 'a".utf8ByteSize := by
  have trailing : parse "record.größe name" = .error (.malformed 15 .trailingText) := by
    decide +kernel
  have opened : parse "record.größe == 'a" = .error (.malformed 20 .openLiteral) := by
    decide +kernel
  obtain ⟨before, after, joined, size, -, -, -, accepted⟩ := parse_error_position trailing
  obtain ⟨c, rest, expr, -, -, hparse⟩ := accepted rfl
  obtain ⟨-, -, -, -, -, -, ended, -⟩ := parse_error_position opened
  exact ⟨trailing, ⟨before, after, joined, size, expr, hparse⟩, opened, ended rfl⟩

end FilterTree.Predicate
