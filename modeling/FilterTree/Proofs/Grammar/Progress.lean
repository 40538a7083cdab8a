/-
Module: FilterTree.Proofs.Grammar.Progress
Layer: Proofs
Purpose: What one run of a parser does to its place and to the counter of open levels. A counting reader that
  succeeds is further on in its text; whether it succeeds or fails, the counter is back where it was, and no more
  levels were ever open than the language allows. What it comes to is what the parser of the same part gives with
  the levels that are left, whatever bound its loops have, as long as the text is not longer: the bounds end no
  loop. All of this is one property of steps, which goes from two steps to both one behind the other and from a
  step to the level around it.
Imports: FilterTree.Proofs.Grammar.Counted
Main exports: ComesTo, ComesTo.bind, ComesTo.level_succ, Mirrors, unary_comesTo, Part.read_comesTo, reading_progresses
-/
import FilterTree.Proofs.Grammar.Counted

namespace FilterTree.Predicate

open Text (skipBlanks stripPrefix?)

/-! ### Results -/

/-- Wherever a number of levels is left, a counting step comes to a result, puts the counter of open levels back
    and has had no more of them open than the language allows. -/
def ComesTo {α : Type} {text : List Char} (levels : Nat) (step : Counting (Advance α text))
    (result : Except Stop (α × List Char)) : Prop :=
  ∀ counter : Counter, maxLevels - counter.depth = levels →
    (step counter).1.map Advance.pair = result ∧ (step counter).2.depth = counter.depth ∧
      (step counter).2.deepest ≤ max maxLevels counter.deepest

namespace ComesTo

variable {α β : Type} {levels : Nat} {text other : List Char}

theorem pure (advance : Advance α text) : ComesTo levels (Pure.pure advance) (.ok advance.pair) :=
  fun _ _ => ⟨rfl, rfl, le_max_right _ _⟩

theorem fail (stop : Stop) : ComesTo levels (.fail stop : Counting (Advance α text)) (.error stop) :=
  fun _ _ => ⟨rfl, rfl, le_max_right _ _⟩

/-- Steps one behind the other. The second begins where the first has put the counter back. -/
theorem bind {step : Counting (Advance α text)} {next : Advance α text → Counting (Advance β other)}
    {result : Except Stop (α × List Char)} {more : α × List Char → Except Stop (β × List Char)}
    (first : ComesTo levels step result) (second : ∀ advance, ComesTo levels (next advance) (more advance.pair)) :
    ComesTo levels (step >>= next) (result >>= more) := by
  intro counter hlevels
  obtain ⟨hresult, hdepth, hdeepest⟩ := first counter hlevels
  cases hstep : step counter with
  | mk outcome after =>
      rw [hstep] at hresult hdepth hdeepest
      cases outcome with
      | error stop =>
          rw [Counting.bind_error hstep, ← hresult]
          exact ⟨rfl, hdepth, hdeepest⟩
      | ok advance =>
          rw [Counting.bind_ok hstep, ← hresult]
          obtain ⟨hnext, hback, hmost⟩ := second advance after (by rw [hdepth, hlevels])
          exact ⟨hnext, hback.trans hdepth, hmost.trans (max_le (le_max_left _ _) hdeepest)⟩

/-- A step whose value is changed. -/
theorem map {step : Counting (Advance α text)} {f : Advance α text → Advance β other}
    {result : Except Stop (α × List Char)} {g : α × List Char → β × List Char}
    (first : ComesTo levels step result) (same : ∀ advance, (f advance).pair = g advance.pair) :
    ComesTo levels (step >>= fun advance => Pure.pure (f advance)) (result >>= fun pair => .ok (g pair)) :=
  first.bind fun advance => by
    rw [← same]
    exact pure (f advance)

/-- A step inside an end of a text comes to the same in the text. -/
theorem within {whole : List Char} (ends : text <:+ whole) {step : Counting (Advance α text)}
    {result : Except Stop (α × List Char)} (inside : ComesTo levels step result) :
    ComesTo levels (step >>= fun advance => Pure.pure (advance.within ends)) result := by
  have same := inside.map (f := Advance.within ends) (g := id) fun _ => rfl
  cases result <;> exact same

/-- Without a level left there is no step. -/
theorem level_zero (step : Counting (Advance α text)) :
    ComesTo 0 (level text step) (.error (.at .tooDeep text)) := by
  intro counter hlevels
  have full : maxLevels ≤ counter.depth := by omega
  rw [level, if_pos full]
  exact ⟨rfl, rfl, le_max_right _ _⟩

/-- A level takes one of those that are left, and gives it back. -/
theorem level_succ {step : Counting (Advance α text)} {result : Except Stop (α × List Char)}
    (inside : ComesTo levels step result) : ComesTo (levels + 1) (level text step) result := by
  intro counter hlevels
  have free : ¬ maxLevels ≤ counter.depth := by omega
  obtain ⟨hresult, hdepth, hdeepest⟩ :=
    inside ⟨counter.depth + 1, max counter.deepest (counter.depth + 1)⟩ (by simp only; omega)
  rw [level, if_neg free]
  refine ⟨hresult, ?_, ?_⟩
  · simp only [hdepth, Nat.add_sub_cancel]
  · simp only at hdeepest ⊢
    omega

end ComesTo

/-! ### Readers and parsers

Each counting reader comes to what its parser gives, when the bound of the parser is no less than the length of
the text. Arguments begin behind a parenthesis, so their text is shorter than the bound.
-/

/-- A reader comes to what a parser gives on every text below its limit. -/
def Mirrors {limit : Nat} (levels : Nat) (reader : Reader limit) (parser : Parser) : Prop :=
  ∀ (text : List Char) (fits : text.length < limit), ComesTo levels (reader text fits) (parser text)

theorem settled_comesTo {levels : Nat} {text : List Char} {result : Except Stop (Expr × List Char)}
    (advances : ∀ value rest, result = .ok (value, rest) → Further rest text) :
    ComesTo levels (Counted.settled result advances) result := by
  cases result with
  | error stop => exact .fail stop
  | ok pair => exact .pure ⟨pair.1, pair.2, advances pair.1 pair.2 rfl⟩

/-- The steps of a path go behind those that were read. -/
theorem steps_comesTo {levels bound : Nat} {text : List Char} {here : Advance (List String) text}
    (hbound : here.rest.length ≤ bound) :
    ComesTo levels (Counted.steps here)
      (steps bound here.rest >>= fun (names, rest) => .ok (here.value ++ names, rest)) := by
  have stays : ∀ here : Advance (List String) text,
      ComesTo levels (Pure.pure here) (.ok (here.value ++ [], here.rest)) := by
    intro here
    rw [List.append_nil]
    exact .pure here
  induction bound generalizing here with
  | zero =>
      have ended : here.rest = [] := List.length_eq_zero_iff.mp (Nat.le_zero.mp hbound)
      rw [Counted.steps]
      split
      case h_1 => exact stays here
      case h_2 after found =>
        simp only [ended] at found
        cases found
  | succ bound ih =>
      rw [Counted.steps, steps]
      split
      case h_1 found =>
        simp only [found]
        exact stays here
      case h_2 after found =>
        have joined := further_of_joint found
        have shorter := joined.shorter
        have named : after.dropWhile Text.isFieldChar <:+ after := List.dropWhile_suffix _
        have run := named.length_le
        have goesOn := @ih ⟨here.value ++ [String.ofList (after.takeWhile Text.isFieldChar)],
          after.dropWhile Text.isFieldChar, .behind (named.trans joined.ends) here.further⟩ (by simp only; omega)
        simp only [found]
        split
        case isTrue => exact .fail _
        case isFalse =>
          cases read : steps bound (after.dropWhile Text.isFieldChar) with
          | error stop =>
              simp only [read] at goesOn
              exact goesOn
          | ok pair =>
              simp only [read, List.append_assoc] at goesOn
              exact goesOn

/-- A path begins with no step read. -/
theorem path_comesTo {levels bound : Nat} {text rest : List Char} (named : Further rest text)
    (hbound : rest.length ≤ bound) :
    ComesTo levels (Counted.steps (⟨[], rest, named⟩ : Advance (List String) text)) (steps bound rest) := by
  have path := @steps_comesTo levels bound text ⟨[], rest, named⟩ hbound
  cases read : steps bound rest <;> simp only [read] at path <;> exact path

section Readers

variable {limit levels bound : Nat} {inner : Reader limit} {plain : Parser} {text : List Char}

theorem arguments_comesTo (mirrors : Mirrors levels inner plain) {text : List Char} (fits : text.length < limit)
    (hbound : text.length < bound) :
    ComesTo levels (Counted.arguments inner text fits) (arguments plain bound text) := by
  induction bound generalizing text with
  | zero => cases hbound
  | succ bound ih =>
      rw [Counted.arguments, arguments]
      refine (mirrors text fits).bind fun arg => ?_
      simp only [Advance.pair]
      split
      case h_1 after found =>
        have shorter := (further_of_skipBlanks found).shorter
        have further := arg.further.shorter
        simp only [found]
        exact (ih _ (by omega)).map fun args => rfl
      case h_2 after found =>
        simp only [found]
        exact .pure _
      case h_3 noComma noClose =>
        split
        case h_1 rest found => exact absurd found (noComma rest)
        case h_2 rest found => exact absurd found (noClose rest)
        case h_3 => exact .fail _

theorem call_comesTo (mirrors : Mirrors levels inner plain) (function : Function) (fits : text.length < limit)
    (hbound : text.length ≤ bound) :
    ComesTo levels (Counted.call inner function text fits) (call bound plain function text) := by
  unfold Counted.call
  split
  case h_1 after found =>
    have shorter := (further_of_skipBlanks found).shorter
    have skipped := Text.length_skipBlanks_le after
    by_cases closed : ∃ rest, skipBlanks after = ')' :: rest
    · obtain ⟨rest, closed⟩ := closed
      have missing : ¬ ([] : List Expr).length = function.arity := by cases function <;> decide
      rw [call_empty found closed]
      simp only [Counted.enclosed_closed _ closed]
      show ComesTo levels (if ([] : List Expr).length = function.arity then _ else _) _
      rw [if_neg missing]
      exact .fail _
    · have opened := not_exists.mp closed
      rw [call_open found opened]
      simp only [Counted.enclosed_open _ opened]
      refine (ComesTo.within _ (arguments_comesTo mirrors _ (by omega))).bind fun args => ?_
      show ComesTo levels (if args.value.length = function.arity then _ else _)
        (if args.value.length = function.arity then _ else _)
      split
      case isTrue => exact .pure _
      case isFalse => exact .fail _
  case h_2 notOpen =>
    unfold call
    split
    case h_1 rest found => exact absurd found (notOpen rest)
    case h_2 => exact .fail _

theorem word_comesTo (mirrors : Mirrors levels inner plain) (fits : text.length ≤ limit)
    (hbound : text.length ≤ bound) :
    ComesTo levels (Counted.word inner text fits) (word bound plain text) := by
  rw [Counted.word, word]
  split
  case isTrue => exact .fail _
  case isFalse nameless =>
    have shorter := (further_of_run fun empty => nameless (List.isEmpty_iff.mpr empty)).shorter
    simp only
    split
    case isTrue => exact (path_comesTo _ (by omega)).map fun path => rfl
    case isFalse =>
      cases keyword : keyword? (String.ofList (text.takeWhile Text.isNameChar)) with
      | some scalar => exact .pure _
      | none =>
          cases called : Function.ofName? (String.ofList (text.takeWhile Text.isNameChar)) with
          | some function => exact (call_comesTo mirrors function _ (by omega)).within _
          | none => exact .fail _

theorem group_comesTo (mirrors : Mirrors levels inner plain) : Mirrors levels (Counted.group inner) (group plain) := by
  intro text fits
  rw [Counted.group, group]
  refine (mirrors text fits).bind fun expr => ?_
  simp only [Advance.pair]
  split
  case h_1 after found =>
    simp only [found]
    exact .pure _
  case h_2 notClose =>
    split
    case h_1 rest found => exact absurd found (notClose rest)
    case h_2 => exact .fail _

theorem primary_comesTo (mirrors : Mirrors levels inner plain) (fits : text.length ≤ limit)
    (hbound : text.length ≤ bound) :
    ComesTo levels (Counted.primary inner text fits) (primary bound plain (skipBlanks text)) := by
  rw [Counted.primary]
  split
  case h_1 after found =>
    simp only [found]
    exact (group_comesTo mirrors after _).within _
  case h_2 after found | h_3 after found =>
    simp only [found]
    exact settled_comesTo _
  case h_4 noGroup noSingle noDouble =>
    have skipped := Text.length_skipBlanks_le text
    have bare : primary bound plain (skipBlanks text) =
        if startsNumber (skipBlanks text) then number (skipBlanks text) else word bound plain (skipBlanks text) := by
      unfold primary
      split
      case h_1 after found => exact absurd found (noGroup after)
      case h_2 after found => exact absurd found (noSingle after)
      case h_3 after found => exact absurd found (noDouble after)
      case h_4 => rfl
    rw [bare]
    split
    case isTrue => exact settled_comesTo _
    case isFalse => exact (word_comesTo mirrors _ (by omega)).within _

theorem chain_comesTo (mirrors : Mirrors levels inner plain) (join : Expr → Expr → Expr) (mark : Char)
    (fits : text.length < limit) {left : Advance Expr text} (hbound : left.rest.length ≤ bound) :
    ComesTo levels (Counted.chain join mark inner fits left)
      (chain join [mark, mark] plain bound left.value left.rest) := by
  induction bound generalizing left with
  | zero =>
      have ended : left.rest = [] := List.length_eq_zero_iff.mp (Nat.le_zero.mp hbound)
      rw [Counted.chain]
      split
      case h_1 =>
        have stays : ComesTo levels _ _ := .pure (left.onTo (skipBlanks left.rest) (skipBlanks_suffix left.rest))
        simp only [Advance.onTo, Advance.pair, ended] at stays ⊢
        exact stays
      case h_2 after found =>
        simp only [ended] at found
        cases found
  | succ bound ih =>
      rw [Counted.chain, chain]
      split
      case h_1 found =>
        simp only [found]
        exact .pure _
      case h_2 after found =>
        have shorter := (further_of_symbol (by simp) found).shorter
        simp only [found]
        refine (mirrors after _).bind fun right => ?_
        have further := right.further.shorter
        exact @ih ((right.within _).map (join left.value)) (by simp only [Advance.map, Advance.within]; omega)

theorem compareExpr_comesTo (mirrors : Mirrors levels inner plain) :
    Mirrors levels (Counted.compareExpr inner) (compareExpr plain) := by
  intro text fits
  rw [Counted.compareExpr, compareExpr]
  refine (mirrors text fits).bind fun left => ?_
  simp only [Advance.pair]
  split
  case h_1 found =>
    simp only [found]
    exact .pure _
  case h_2 relation after found =>
    simp only [found]
    exact (mirrors after _).map fun right => rfl

/-- An operand and a chain behind it. -/
theorem chained_comesTo (mirrors : Mirrors levels inner plain) (join : Expr → Expr → Expr) (mark : Char)
    (fits : text.length < limit) (hbound : text.length ≤ bound) :
    ComesTo levels (inner text fits >>= fun left => Counted.chain join mark inner fits left)
      (plain text >>= fun (left, rest) => chain join [mark, mark] plain bound left rest) := by
  refine (mirrors text fits).bind fun left => ?_
  have shorter := left.further.shorter
  exact chain_comesTo mirrors join mark fits (by omega)

theorem andExpr_comesTo (mirrors : Mirrors levels inner plain) (fits : text.length < limit)
    (hbound : text.length ≤ bound) :
    ComesTo levels (Counted.andExpr inner text fits) (andExpr bound plain text) :=
  chained_comesTo (compareExpr_comesTo mirrors) .and '&' fits hbound

theorem orExpr_comesTo (mirrors : Mirrors levels inner plain) (below : limit ≤ bound + 1) :
    Mirrors levels (Counted.orExpr inner) (orExpr bound plain) :=
  fun _ fits => chained_comesTo (fun _ fits => andExpr_comesTo mirrors fits (by omega)) .or '|' fits (by omega)

end Readers

/-- A unary comes to the same with and without bounds. The recursion of the parser is on the levels, and that of the
    reader on the text. -/
theorem unary_comesTo {bound levels : Nat} {text : List Char} (hbound : text.length ≤ bound) :
    ComesTo levels (Counted.unary text) (unary bound levels text) := by
  induction levels generalizing text with
  | zero =>
      rw [Counted.unary]
      exact .level_zero _
  | succ levels ih =>
      rw [Counted.unary, unary]
      apply ComesTo.level_succ
      split
      case h_1 after found =>
        have shorter := (further_of_skipBlanks found).shorter
        simp only [found]
        exact (ih (by omega)).map fun operand => rfl
      case h_2 notBang =>
        have unaries : Mirrors levels (fun inside _ => Counted.unary inside : Reader text.length)
            (unary bound levels) := fun inside fits => @ih inside (by omega)
        have disjunctions : Mirrors levels _ (orExpr bound _) := orExpr_comesTo unaries (by omega)
        split
        case h_1 after found => exact absurd found (notBang after)
        case h_2 => exact primary_comesTo disjunctions (Nat.le_refl text.length) hbound

/-- The reader of a part comes to what its parser gives. -/
theorem Part.read_comesTo (part : Part) {bound levels : Nat} {text : List Char} (hbound : text.length ≤ bound) :
    ComesTo levels (part.read text) (part.parser bound levels text) := by
  have unaries : Mirrors levels (fun inside _ => Counted.unary inside : Reader (text.length + 1))
      (Predicate.unary bound levels) := fun inside fits => unary_comesTo (by omega)
  have fits := Nat.lt_succ_self text.length
  have disjunctions : Mirrors levels _ (orExpr bound _) := orExpr_comesTo unaries (by omega)
  cases part with
  | or => exact disjunctions text fits
  | and => exact andExpr_comesTo unaries fits hbound
  | compare => exact compareExpr_comesTo unaries text fits
  | unary => exact unary_comesTo hbound
  | primary => exact primary_comesTo disjunctions (Nat.le_succ text.length) hbound

/-! ### Places -/

/-- What is further on in the rest of a text is at a later place of the text, where it may be cut. -/
theorem Further.place {before text : String} {rest : List Char} (further : Further rest text.toList) :
    ∃ taken : String, text = taken ++ String.ofList rest ∧
      before.utf8ByteSize < (before ++ taken).utf8ByteSize ∧
      (before ++ taken).utf8ByteSize ≤ (before ++ text).utf8ByteSize ∧
      (String.Pos.Raw.mk (before ++ taken).utf8ByteSize).IsValid (before ++ text) := by
  obtain ⟨taken, htext⟩ := further.ends
  have split : text = String.ofList taken ++ String.ofList rest := by
    rw [← String.ofList_append, htext, String.ofList_toList]
  have joined : before ++ text = before ++ String.ofList taken ++ String.ofList rest := by
    rw [String.append_assoc, ← split]
  have valid : (String.Pos.Raw.mk (before ++ String.ofList taken).utf8ByteSize).IsValid (before ++ text) :=
    String.Pos.Raw.isValid_iff_exists_append.mpr ⟨_, _, joined, rfl⟩
  refine ⟨String.ofList taken, split, ?_, valid.le_utf8ByteSize, valid⟩
  have nonempty : String.ofList taken ≠ "" := by
    rintro empty
    have shorter := further.shorter
    rw [String.ofList_eq_empty_iff] at empty
    rw [← htext, empty, List.nil_append] at shorter
    exact Nat.lt_irrefl _ shorter
  have size := Nat.pos_of_ne_zero (mt String.utf8ByteSize_eq_zero_iff.mp nonempty)
  rw [String.utf8ByteSize_append]
  omega

/-- Every reader makes progress and puts the counter back. From every place of every input, which is where `before`
    ends and `text` begins, and with any number of levels open, it ends, and it does what the parser of its part
    does with the levels that are left, however far above the length of the text the bound of the loops is. When it
    is over, with or without success, as many levels are open as before, and at no time more than the language
    allows. Where it succeeds, it leaves a later place of the input, at its end at the latest, where a character
    begins or the input ends. -/
theorem reading_progresses (part : Part) (before text : String) (counter : Counter) :
    let outcome := part.read text.toList counter
    (∀ bound, text.length ≤ bound →
        part.parser bound (maxLevels - counter.depth) text.toList = outcome.1.map Advance.pair) ∧
      outcome.2.depth = counter.depth ∧ outcome.2.deepest ≤ max maxLevels counter.deepest ∧
      ∀ advance, outcome.1 = .ok advance →
        ∃ taken : String, text = taken ++ String.ofList advance.rest ∧
          before.utf8ByteSize < (before ++ taken).utf8ByteSize ∧
          (before ++ taken).utf8ByteSize ≤ (before ++ text).utf8ByteSize ∧
          (String.Pos.Raw.mk (before ++ taken).utf8ByteSize).IsValid (before ++ text) := by
  have comes := fun bound (hbound : text.toList.length ≤ bound) => part.read_comesTo hbound counter rfl
  obtain ⟨-, depth, deepest⟩ := comes _ (Nat.le_refl _)
  exact ⟨fun bound hbound => (comes bound (String.length_toList ▸ hbound)).1.symm, depth, deepest,
    fun advance _ => advance.further.place⟩

/-- A negated path takes the last two levels, and with one level left it fails; the counter is back both times. -/
theorem reading_progresses_at_limit :
    let text := " !record.größe) x"
    (∃ advance, (Part.unary.read text.toList ⟨254, 254⟩).1 = .ok advance ∧
        advance.pair = (.not (.path ["größe"]), ") x".toList)) ∧
      (Part.unary.read text.toList ⟨254, 254⟩).2.depth = 254 ∧
      (Part.unary.read text.toList ⟨255, 255⟩).1.map Advance.pair = .error (.at .tooDeep "record.größe) x".toList) ∧
      (Part.unary.read text.toList ⟨255, 255⟩).2.depth = 255 := by
  intro text
  obtain ⟨same, depth, -, -⟩ := reading_progresses .unary "(" text ⟨254, 254⟩
  obtain ⟨sameAbove, depthAbove, -, -⟩ := reading_progresses .unary "(" text ⟨255, 255⟩
  have read : Part.unary.parser 17 2 text.toList = .ok (.not (.path ["größe"]), ") x".toList) := by
    decide +kernel
  have refused : Part.unary.parser 17 1 text.toList = .error (.at .tooDeep "record.größe) x".toList) := by
    decide +kernel
  refine ⟨?_, depth, ?_, depthAbove⟩
  · have result := (same 17 (by decide)).symm.trans read
    cases houtcome : (Part.unary.read text.toList ⟨254, 254⟩).1 with
    | error stop =>
        rw [houtcome] at result
        cases result
    | ok advance =>
        rw [houtcome] at result
        exact ⟨advance, rfl, Except.ok.inj result⟩
  · exact (sameAbove 17 (by decide)).symm.trans refused

end FilterTree.Predicate
