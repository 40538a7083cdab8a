/-
Module: FilterTree.Proofs.Grammar.Surroundings
Layer: Proofs
Purpose: What the text around a path can be. Behind the path token of a layout stands the rest of the path and
  its blanks, so a text that goes on with another character either ends the path there, or keeps that character
  for a later token. A literal between tokens that only open and close cannot be that later token: no literal
  holds an unquoted mark, and a quoted one ends at its first.
Imports: FilterTree.Proofs.Grammar.Inversion
Main exports: NamesPath, Layout.path_apart, Layout.path_closed, Grammar.Surrounded.no_room
-/
import FilterTree.Proofs.Grammar.Inversion

namespace FilterTree.Predicate

open Text (isBlankText)

/-! ### Cutting texts -/

/-- Where a character is not in a prefix, it stands behind it. -/
theorem append_before {c : Char} {front before behind rest : List Char} (notMem : c ∉ before)
    (h : front ++ c :: behind = before ++ rest) :
    ∃ between, front = before ++ between ∧ rest = between ++ c :: behind := by
  rcases List.append_eq_append_iff.mp h with ⟨others, hbefore, hbehind⟩ | ⟨others, hfront, hrest⟩
  · cases others with
    | nil =>
        rw [List.append_nil] at hbefore
        exact ⟨[], by rw [hbefore, List.append_nil], hbehind.symm⟩
    | cons d others =>
        injection hbehind with hd _
        subst hd
        exact absurd (by rw [hbefore]; simp) notMem
  · exact ⟨others, hfront, hrest⟩

/-- Two texts that end at a character of one kind and go on with others of another kind end together. -/
theorem append_end {closes : Char → Prop} {c d : Char} {first second behind rest : List Char}
    (hc : ¬ closes c) (hd : ¬ closes d) (hbehind : ∀ e ∈ behind, closes e) (hrest : ∀ e ∈ rest, closes e)
    (h : first ++ [c] ++ behind = second ++ [d] ++ rest) : first ++ [c] = second ++ [d] := by
  rcases List.append_eq_append_iff.mp h with ⟨others, hsecond, rfl⟩ | ⟨others, hfirst, rfl⟩
  · rcases List.eq_nil_or_concat others with rfl | ⟨others, e, rfl⟩
    · rw [hsecond, List.append_nil]
    · rw [List.concat_eq_append, ← List.append_assoc] at hsecond
      obtain rfl := List.singleton_inj.mp (List.append_inj_right' hsecond rfl)
      exact absurd (hbehind d (by simp)) hd
  · rcases List.eq_nil_or_concat others with rfl | ⟨others, e, rfl⟩
    · rw [hfirst, List.append_nil]
    · rw [List.concat_eq_append, ← List.append_assoc] at hfirst
      obtain rfl := List.singleton_inj.mp (List.append_inj_right' hfirst rfl)
      exact absurd (hrest c (by simp)) hc

/-! ### Behind a path -/

/-- The field is a path along the steps, with blanks behind it. -/
def NamesPath (names : List String) (field : List Char) : Prop :=
  ∃ path blanks, field = path ++ blanks ∧ PathTail names ('?' :: '.' :: path) ∧ isBlankText blanks = true

/-- No character of a path is of another kind. -/
theorem PathTail.not_mem {names : List String} {tail : List Char} {c : Char} (joined : PathTail names tail)
    (notField : Text.isFieldChar c = false) (notPoint : c ≠ '.') (notMark : c ≠ '?') : c ∉ tail := by
  induction joined with
  | nil => exact List.not_mem_nil
  | @step joint name tail names joined named rest ih =>
      have notName : c ∉ name := by
        intro hmem
        rw [named.2 c hmem] at notField
        cases notField
      have notJoint : c ∉ joint := by
        rcases joined with rfl | rfl <;> simp [notPoint, notMark]
      rw [List.mem_append, List.mem_append, not_or, not_or]
      exact ⟨notJoint, notName, ih⟩

/-- A path with its first joint, in front of a token that no question mark begins, is the field so far. -/
theorem PathTail.joint {names : List String} {tail text rest : List Char} (joined : PathTail names tail)
    (h : '?' :: '.' :: text = tail ++ rest) (noMark : ∀ behind, rest ≠ '?' :: behind) :
    ∃ path, tail = '?' :: '.' :: path ∧ text = path ++ rest := by
  cases joined with
  | nil => exact absurd h.symm (noMark _)
  | @step joint name tail names joined named others =>
      rcases joined with rfl | rfl
      · cases h
      · injection h with _ h
        injection h with _ h
        exact ⟨name ++ tail, rfl, by rw [h]; rfl⟩

namespace Layout

variable {names : List String} {token : Token} {tokens : List Token} {c : Char} {field behind : List Char}

/-- A token that no question mark begins is not laid out behind one. -/
theorem no_mark {text : List Char} (h : Layout (token :: tokens) text)
    (noMark : ∀ spelling, token.Spelled spelling → ∃ d others, spelling = d :: others ∧ d ≠ '?')
    (rest : List Char) : text ≠ '?' :: rest := by
  rintro rfl
  obtain ⟨spelling, tail, spelled, htext, -⟩ := h.front (by decide)
  obtain ⟨d, others, rfl, hd⟩ := noMark spelling spelled
  injection htext with heq
  exact hd heq.symm

/-- Where a path token comes first in a text that begins a path, it takes a path off its front. -/
theorem path_front {text : List Char}
    (h : Layout (.path names :: token :: tokens) (['r', 'e', 'c', 'o', 'r', 'd'] ++ ('?' :: '.' :: text)))
    (noMark : ∀ spelling, token.Spelled spelling → ∃ d others, spelling = d :: others ∧ d ≠ '?') :
    ∃ path rest, PathTail names ('?' :: '.' :: path) ∧ text = path ++ rest ∧
      Layout (token :: tokens) rest := by
  obtain ⟨spelling, rest, spelled, htext, others⟩ := h.front (by decide)
  cases spelled with
  | @path _ tail joined =>
      have hjoined : '?' :: '.' :: text = tail ++ rest := by
        rw [List.append_assoc] at htext
        exact @List.append_cancel_left _ ['r', 'e', 'c', 'o', 'r', 'd'] _ _ htext
      obtain ⟨path, rfl, hpath⟩ := joined.joint hjoined (others.no_mark noMark)
      exact ⟨path, rest, joined, hpath, others⟩

/-- Where a path token is laid out over a field and what stands behind it, the field names the path, or the
    character behind it stands behind the next token. -/
theorem path_or (h : Layout (.path names :: token :: tokens) (['r', 'e', 'c', 'o', 'r', 'd'] ++
      ('?' :: '.' :: (field ++ c :: behind))))
    (notField : Text.isFieldChar c = false) (notPoint : c ≠ '.') (notQuestion : c ≠ '?')
    (noMark : ∀ spelling, token.Spelled spelling → ∃ d others, spelling = d :: others ∧ d ≠ '?') :
    NamesPath names field ∨ ∃ before spelling rest, before ≠ [] ∧ token.Spelled spelling ∧
      Layout tokens rest ∧ before ++ c :: behind = spelling ++ rest := by
  obtain ⟨path, rest, joined, hfield, others⟩ := h.path_front noMark
  have notPath : c ∉ path := by
    have := joined.not_mem notField notPoint notQuestion
    simp only [List.mem_cons, not_or] at this
    exact this.2.2
  obtain ⟨between, rfl, hrest⟩ := append_before notPath hfield
  -- What the field holds behind the path are blanks, or it reaches into the next token.
  cases others with
  | @cons _ _ blanks spelling rest blank spelled more =>
      rcases List.append_eq_append_iff.mp hrest with ⟨before, rfl, hbefore⟩ | ⟨before, rfl, -⟩
      · cases before with
        | nil =>
            rw [List.append_nil]
            exact .inl ⟨path, blanks, rfl, joined, blank⟩
        | cons d before =>
            exact .inr ⟨d :: before, spelling, rest, List.cons_ne_nil d before, spelled, more,
              hbefore.symm⟩
      · rw [isBlankText, List.all_append, Bool.and_eq_true] at blank
        exact .inl ⟨path, between, rfl, joined, blank.1⟩

/-- Where the next token does not hold the character, it stands in what the others lay out. -/
theorem path_apart (h : Layout (.path names :: token :: tokens) (['r', 'e', 'c', 'o', 'r', 'd'] ++
      ('?' :: '.' :: (field ++ c :: behind))))
    (notField : Text.isFieldChar c = false) (notPoint : c ≠ '.') (notQuestion : c ≠ '?')
    (apart : ∀ spelling, token.Spelled spelling → c ∉ spelling ∧ ∃ d others, spelling = d :: others ∧ d ≠ '?') :
    NamesPath names field ∨ ∃ between, Layout tokens (between ++ c :: behind) := by
  rcases h.path_or notField notPoint notQuestion fun spelling spelled => (apart spelling spelled).2 with
    named | ⟨before, spelling, rest, -, spelled, others, hrest⟩
  · exact .inl named
  · obtain ⟨between, -, rfl⟩ := append_before (apart spelling spelled).1 hrest
    exact .inr ⟨between, others⟩

/-- The closing parenthesis behind a field is the one behind the path, or it stands behind the token after
    that. -/
theorem path_closed (h : Layout (.path names :: .closeParen :: token :: tokens)
      (['r', 'e', 'c', 'o', 'r', 'd'] ++ ('?' :: '.' :: (field ++ ')' :: behind))))
    (apart : ∀ spelling, token.Spelled spelling → ')' ∉ spelling) :
    NamesPath names field ∨ ∃ between, Layout tokens (between ++ ')' :: behind) := by
  have close : ∀ spelling, Token.closeParen.Spelled spelling → spelling = [')'] := fun _ spelled => by
    cases spelled
    rfl
  rcases h.path_or (by decide) (by decide) (by decide) fun spelling spelled =>
      ⟨')', [], close spelling spelled, by decide⟩ with
    named | ⟨before, spelling, rest, nonempty, spelled, others, hrest⟩
  · exact .inl named
  · obtain rfl := close spelling spelled
    cases before with
    | nil => exact absurd rfl nonempty
    | cons d before =>
        obtain ⟨-, hbehind⟩ := List.cons.inj hrest
        cases others with
        | @cons _ _ blanks spelling rest blank spelled others =>
            have notMem : ')' ∉ blanks ++ spelling := by
              rw [List.mem_append, not_or]
              refine ⟨fun hmem => ?_, apart spelling spelled⟩
              rw [isBlankText, List.all_eq_true] at blank
              exact absurd (blank _ hmem) (by decide)
            have hrest : before ++ ')' :: behind = (blanks ++ spelling) ++ rest := by
              rw [List.append_assoc]
              exact hbehind
            obtain ⟨between, -, rfl⟩ := append_before notMem hrest
            exact .inr ⟨between, others⟩

end Layout

/-! ### Around a literal -/

/-- A mark that no backslash escapes stands in no literal between such marks. -/
theorem not_enclosed {mark c : Char} (hmark : mark ≠ '\\') (hc : c ≠ '\\') (behind : List Char) :
    ∀ {before value : List Char}, ¬ Enclosed mark (before ++ c :: mark :: behind) value
  | [], _, h => by
      cases h with
      | plain _ _ tail =>
          cases tail with
          | plain notMark => exact notMark rfl
          | escaped => exact hmark rfl
      | escaped => exact hc rfl
  | [_], _, h => by
      cases h with
      | plain _ _ tail => exact not_enclosed hmark hc behind tail
      | escaped tail =>
          cases tail with
          | plain notMark => exact notMark rfl
          | escaped => exact hmark rfl
  | _ :: _ :: _, _, h => by
      cases h with
      | plain _ _ tail => exact not_enclosed hmark hc behind tail
      | escaped tail => exact not_enclosed hmark hc behind tail

/-- The characters of a literal without quotes. -/
def isPlain (c : Char) : Bool :=
  Text.isFieldChar c || c == '.' || c == '-'

/-- A literal is quoted, or all its characters are plain. -/
theorem Token.Spelled.quoted_or_plain {value : Scalar} {spelling : List Char}
    (spelled : (Token.scalar value).Spelled spelling) :
    (∃ mark inside text, (mark = '\'' ∨ mark = '"') ∧ Enclosed mark inside text ∧
      spelling = mark :: (inside ++ [mark])) ∨
    ∃ front last, spelling = front ++ [last] ∧ ∀ c ∈ spelling, isPlain c = true := by
  have plain : spelling ≠ [] → (∀ c ∈ spelling, isPlain c = true) →
      ∃ front last, spelling = front ++ [last] ∧ ∀ c ∈ spelling, isPlain c = true := fun nonempty inside =>
    ⟨_, _, (List.dropLast_concat_getLast nonempty).symm, inside⟩
  cases spelled with
  | text quotes enclosed => exact .inl ⟨_, _, _, quotes, enclosed, rfl⟩
  | @number minus digits first value sign digit others reads =>
      refine .inr (plain (by simp) fun c hc => ?_)
      have isDigit : ∀ d : Char, d.isDigit = true → isPlain d = true := by
        intro d hd
        rw [isPlain, isFieldChar_of_isDigit hd, Bool.true_or, Bool.true_or]
      rcases List.mem_append.mp hc with hminus | hmem
      · rcases sign with rfl | rfl
        · cases hminus
        · obtain rfl := List.mem_singleton.mp hminus
          decide
      · rcases List.mem_cons.mp hmem with rfl | hmem
        · exact isDigit c digit
        · rcases others c hmem with hdigit | rfl
          · exact isDigit c hdigit
          · decide
  | bool value => cases value <;> exact .inr (plain (by decide) (List.all_eq_true.mp (by decide)))
  | null => exact .inr (plain (by decide) (List.all_eq_true.mp (by decide)))
  | undefined => exact .inr (plain (by decide) (List.all_eq_true.mp (by decide)))

/-- The last character of a literal neither is a blank nor closes. -/
theorem Token.Spelled.exists_last {value : Scalar} {spelling : List Char}
    (spelled : (Token.scalar value).Spelled spelling) :
    ∃ front last, spelling = front ++ [last] ∧ ¬ (Text.isBlank last = true ∨ last = ')') := by
  rcases spelled.quoted_or_plain with ⟨mark, inside, text, quotes, -, rfl⟩ | ⟨front, last, rfl, inside⟩
  · refine ⟨mark :: inside, mark, rfl, ?_⟩
    rcases quotes with rfl | rfl <;> decide
  · refine ⟨front, last, rfl, ?_⟩
    have plain := inside last (by simp)
    rintro (hblank | rfl)
    · have notField := Text.isFieldChar_of_isBlank hblank
      rw [isPlain, notField, Bool.false_or, Bool.or_eq_true, beq_iff_eq, beq_iff_eq] at plain
      rcases plain with rfl | rfl <;> exact absurd hblank (by decide)
    · exact absurd plain (by decide)

/-- No literal ends with another one behind a space or an opening parenthesis: it would be quoted, and its
    mark would stand at the beginning of the other one already. -/
theorem Token.Spelled.not_behind {value other : Scalar} {c d : Char} {inside written : List Char}
    (spelled : (Token.scalar value).Spelled (d :: (inside ++ c :: written)))
    (hwritten : (Token.scalar other).Spelled written) (hc : c = ' ' ∨ c = '(') : False := by
  rcases spelled.quoted_or_plain with ⟨mark, body, text, quotes, enclosed, hquoted⟩ | ⟨-, -, -, plain⟩
  · injection hquoted with _ hbody
    rcases hwritten.quoted_or_plain with ⟨otherMark, otherBody, -, -, -, rfl⟩ | ⟨init, last, rfl, plain⟩
    · have hlast : inside ++ c :: otherMark :: otherBody ++ [otherMark] = body ++ [mark] := by
        simpa using hbody
      obtain ⟨rfl, hmarks⟩ := List.append_inj' hlast rfl
      obtain rfl := List.singleton_inj.mp hmarks
      refine not_enclosed ?_ ?_ otherBody enclosed
      · rcases quotes with rfl | rfl <;> decide
      · rcases hc with rfl | rfl <;> decide
    · have hlast : inside ++ c :: init ++ [last] = body ++ [mark] := by simpa using hbody
      obtain rfl := List.singleton_inj.mp (List.append_inj' hlast rfl).2
      have := plain last (by simp)
      rcases quotes with rfl | rfl <;> exact absurd this (by decide)
  · have := plain c (by simp)
    rcases hc with rfl | rfl <;> exact absurd this (by decide)

/-- A character that can stand in front of a literal that is surrounded. -/
def mayOpen (c : Char) : Bool :=
  Text.isBlank c || c == '(' || Text.isFieldChar c

/-- The text ends with a literal behind a space or an opening parenthesis, and closing parentheses. -/
def EndsInLiteral (text : List Char) : Prop :=
  ∃ front c value written closing, text = front ++ c :: (written ++ closing) ∧ (c = ' ' ∨ c = '(') ∧
    (Token.scalar value).Spelled written ∧ ∀ d ∈ closing, d = ')'

namespace Grammar.Surrounded

/-- Tokens that only open are laid out in characters that may. -/
theorem opening_chars {tokens : List Token} {text : List Char} (h : Layout tokens text)
    (opens : ∀ token ∈ tokens, token = .openParen ∨ ∃ function, token = .function function) :
    ∀ c ∈ text, mayOpen c = true := by
  have ofBlank : ∀ {blanks : List Char}, isBlankText blanks = true → ∀ c ∈ blanks, mayOpen c = true := by
    intro blanks blank c hc
    rw [isBlankText, List.all_eq_true] at blank
    rw [mayOpen, blank c hc, Bool.true_or, Bool.true_or]
  induction h with
  | nil blank => exact ofBlank blank
  | @cons token tokens blanks spelling rest blank spelled tail ih =>
      have inside : ∀ c ∈ spelling, mayOpen c = true := by
        rcases opens token (by simp) with rfl | ⟨function, rfl⟩
        · cases spelled
          exact List.all_eq_true.mp (by decide)
        · cases spelled
          cases function <;> exact List.all_eq_true.mp (by decide)
      intro c hc
      rcases List.mem_append.mp hc with hblank | hc
      · exact ofBlank blank c hblank
      · rcases List.mem_append.mp hc with hspelling | hrest
        · exact inside c hspelling
        · exact ih (fun token hmem => opens token (List.mem_cons_of_mem _ hmem)) c hrest

/-- Closing parentheses are laid out in blanks and closing parentheses. -/
theorem closing_chars {tokens : List Token} {text : List Char} (h : Layout tokens text)
    (closes : ∀ token ∈ tokens, token = .closeParen) : ∀ c ∈ text, Text.isBlank c = true ∨ c = ')' := by
  induction h with
  | nil blank =>
      rw [isBlankText, List.all_eq_true] at blank
      exact fun c hc => .inl (blank c hc)
  | @cons token tokens blanks spelling rest blank spelled tail ih =>
      obtain rfl := closes token (by simp)
      cases spelled
      rw [isBlankText, List.all_eq_true] at blank
      intro c hc
      rcases List.mem_append.mp hc with hblank | hc
      · exact .inl (blank c hblank)
      · rcases List.mem_cons.mp hc with rfl | hrest
        · exact .inr rfl
        · exact ih (fun token hmem => closes token (List.mem_cons_of_mem _ hmem)) c hrest

/-- A surrounded literal leaves no room for a second one: no text with a character that may not open, in front
    of an end in a literal, lays one out. -/
theorem no_room {value : Scalar} {tokens : List Token} {stop : Char} {before text : List Char}
    (h : Surrounded value tokens) (ends : EndsInLiteral text) (layout : Layout tokens (before ++ text))
    (hstop : stop ∈ before) (notOpen : mayOpen stop = false) : False := by
  obtain ⟨between, c, other, written, closing, rfl, hc, hwritten, hclosing⟩ := ends
  rw [← List.append_assoc] at layout
  replace hstop := List.mem_append_left between hstop
  generalize before ++ between = before at layout hstop
  obtain ⟨opening, closers, rfl, opens, closes⟩ := h
  obtain ⟨front, blanks, spelling, behind, htext, hfront, blank, spelled, hbehind⟩ := layout.split_at
  -- Both literals end where only closing characters follow, so they end at the same place.
  have ended : before ++ c :: written = front ++ (blanks ++ spelling) := by
    obtain ⟨init, last, rfl, hlast⟩ := hwritten.exists_last
    obtain ⟨others, otherLast, rfl, hother⟩ := spelled.exists_last
    have together : before ++ c :: init ++ [last] ++ closing =
        front ++ (blanks ++ others) ++ [otherLast] ++ behind := by
      simpa using htext
    have := append_end hlast hother (fun d hd => .inr (hclosing d hd)) (closing_chars hbehind closes) together
    simpa using this
  -- The one that is read begins in front of the character that may not open.
  have opened : ∀ d ∈ front ++ blanks, mayOpen d = true := by
    have inFront := hfront.append (.nil blank)
    rw [List.append_nil] at inFront
    exact opening_chars inFront opens
  rw [← List.append_assoc] at ended
  obtain ⟨inside, hbefore, hspelling⟩ : ∃ inside, before = front ++ blanks ++ inside ∧
      spelling = inside ++ c :: written := by
    rcases List.append_eq_append_iff.mp ended with ⟨others, hopen, -⟩ | ⟨others, hbefore, hspelling⟩
    · have := opened stop (by rw [hopen]; exact List.mem_append_left others hstop)
      rw [notOpen] at this
      cases this
    · exact ⟨others, hbefore, hspelling⟩
  have nonempty : inside ≠ [] := by
    rintro rfl
    rw [List.append_nil] at hbefore
    have := opened stop (by rw [← hbefore]; exact hstop)
    rw [notOpen] at this
    cases this
  obtain ⟨d, inside, rfl⟩ := List.exists_cons_of_ne_nil nonempty
  rw [hspelling, List.cons_append] at spelled
  exact spelled.not_behind hwritten hc

end Grammar.Surrounded

end FilterTree.Predicate
