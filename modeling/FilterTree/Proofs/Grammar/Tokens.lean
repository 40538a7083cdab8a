/-
Module: FilterTree.Proofs.Grammar.Tokens
Layer: Proofs
Purpose: How single tokens are read. Each reader takes exactly the spellings of its tokens: what it takes off
  the front of a text is a spelling of what it gives back, and it takes a spelling whole when the text behind
  it does not go on with it.
Imports: FilterTree.Proofs.Grammar, FilterTree.Proofs.Text
Main exports: Apart, unquote?_enclosed, enclosed_of_unquote?, relation?_spelled, number_spelled,
  steps_pathTail, steps_sound
-/
import FilterTree.Proofs.Grammar
import FilterTree.Proofs.Text

namespace FilterTree.Predicate

open Text (skipBlanks isBlankText StopsAt)

/-! ### Steps -/

section Steps

variable {ε α β : Type} {x : Except ε α}

/-- A step that succeeds hands its value on. -/
theorem bind_of_ok {a : α} (h : x = .ok a) (f : α → Except ε β) : (x >>= f) = f a := by
  rw [h]
  rfl

/-- A step that fails is the end. -/
theorem bind_error {e : ε} (h : x = .error e) (f : α → Except ε β) : (x >>= f) = .error e := by
  rw [h]
  rfl

/-- Where two steps succeed, so does each of them. -/
theorem bind_eq_ok {f : α → Except ε β} {b : β} (h : (x >>= f) = .ok b) :
    ∃ a, x = .ok a ∧ f a = .ok b := by
  cases x with
  | error e => cases h
  | ok a => exact ⟨a, rfl, h⟩

/-- Where two steps fail, one of them does. -/
theorem bind_eq_error {f : α → Except ε β} {e : ε} (h : (x >>= f) = .error e) :
    x = .error e ∨ ∃ a, x = .ok a ∧ f a = .error e := by
  cases x with
  | error e' =>
      cases h
      exact .inl rfl
  | ok a => exact .inr ⟨a, rfl, h⟩

end Steps

/-! ### What may follow a word -/

/-- The text behind a word does not go on with it: it begins with no character of a name, no point and no
    question mark. -/
def Apart (text : List Char) : Prop :=
  StopsAt (fun c => Text.isFieldChar c || c == '.' || c == '?') text

theorem apart_nil : Apart [] := by
  simp [Apart, StopsAt]

theorem apart_cons {c : Char} {text : List Char}
    (h : (Text.isFieldChar c || c == '.' || c == '?') = false) : Apart (c :: text) := by
  simpa [Apart, StopsAt] using h

/-- Blanks keep a word apart from what follows. -/
theorem apart_blanks {blanks text : List Char} (hb : isBlankText blanks = true) (h : Apart text) :
    Apart (blanks ++ text) := by
  cases blanks with
  | nil => exact h
  | cons c blanks =>
      rw [isBlankText, List.all_cons, Bool.and_eq_true] at hb
      have hc : c ≠ '.' ∧ c ≠ '?' := by
        constructor <;> rintro rfl <;> exact absurd hb.1 (by decide)
      exact apart_cons (by simp [Text.isFieldChar_of_isBlank hb.1, hc])

/-- A class of characters inside those of words ends where a word ends. -/
theorem Apart.stopsAt {text : List Char} (h : Apart text) {p : Char → Bool}
    (inside : ∀ c, p c = true → Text.isFieldChar c = true ∨ c = '.') : StopsAt p text := by
  intro c hc
  have hout := h c hc
  rw [Bool.eq_false_iff]
  intro hp
  rcases inside c hp with hfield | rfl
  · simp [hfield] at hout
  · simp at hout

theorem Apart.field {text : List Char} (h : Apart text) : StopsAt Text.isFieldChar text :=
  h.stopsAt fun _ hc => .inl hc

theorem Apart.name {text : List Char} (h : Apart text) : StopsAt Text.isNameChar text :=
  h.stopsAt fun _ hc => .inl (by rw [Text.isFieldChar, hc, Bool.true_or])

theorem isFieldChar_of_isDigit {c : Char} (h : c.isDigit = true) : Text.isFieldChar c = true := by
  simp [Text.isFieldChar, Text.isNameChar, Text.isAlphanumeric, Char.isAlphanum, h]

theorem Apart.number {text : List Char} (h : Apart text) : StopsAt isNumberChar text := by
  refine h.stopsAt fun c hc => ?_
  rw [isNumberChar, Bool.or_eq_true, beq_iff_eq] at hc
  exact hc.imp_left isFieldChar_of_isDigit

theorem Apart.stepJoint? {text : List Char} (h : Apart text) : stepJoint? text = none := by
  rcases text with _ | ⟨c, rest⟩
  · rfl
  · have hc := h c rfl
    simp only [Bool.or_eq_false_iff, beq_eq_false_iff_ne] at hc
    unfold Predicate.stepJoint?
    split <;> simp_all

/-! ### Texts in quotes -/

theorem unquote?_mark (mark : Char) (rest : List Char) :
    Text.unquote? mark (mark :: rest) = some ([], rest) := by
  cases rest <;> simp [Text.unquote?]

theorem unquote?_plain {mark c : Char} (notMark : c ≠ mark) (notBackslash : c ≠ '\\') (rest : List Char) :
    Text.unquote? mark (c :: rest) =
      (Text.unquote? mark rest).map fun (value, after) => (c :: value, after) := by
  rw [Text.unquote?.eq_def]
  simp [notMark, notBackslash]

theorem unquote?_escaped {mark : Char} (notBackslash : '\\' ≠ mark) (c : Char) (rest : List Char) :
    Text.unquote? mark ('\\' :: c :: rest) =
      (Text.unquote? mark rest).map fun (value, after) => (c :: value, after) := by
  rw [Text.unquote?.eq_def]
  simp [notBackslash]

/-- Reading up to the closing mark undoes every way to enclose a text. -/
theorem unquote?_enclosed {mark : Char} {inside value : List Char} (enclosed : Enclosed mark inside value)
    (notBackslash : '\\' ≠ mark) (rest : List Char) :
    Text.unquote? mark (inside ++ mark :: rest) = some (value, rest) := by
  induction enclosed with
  | nil => exact unquote?_mark mark rest
  | plain notMark noEscape tail ih =>
      rw [List.cons_append, unquote?_plain notMark noEscape, ih]
      rfl
  | escaped tail ih =>
      rw [List.cons_append, List.cons_append, unquote?_escaped notBackslash, ih]
      rfl

/-- What is read up to the closing mark was enclosed. -/
theorem enclosed_of_unquote? {mark : Char} {text value rest : List Char}
    (h : Text.unquote? mark text = some (value, rest)) :
    ∃ inside, text = inside ++ mark :: rest ∧ Enclosed mark inside value := by
  fun_induction Text.unquote? mark text generalizing value with
  | case1 => cases h
  | case2 text =>
      cases h
      exact ⟨[], rfl, .nil⟩
  | case3 => cases h
  | case4 c text notMark ih =>
      obtain ⟨⟨tail, after⟩, hread, hpair⟩ := Option.map_eq_some_iff.mp h
      cases hpair
      obtain ⟨inside, rfl, enclosed⟩ := ih hread
      exact ⟨'\\' :: c :: inside, rfl, .escaped enclosed⟩
  | case5 c text notMark notBackslash ih =>
      obtain ⟨⟨tail, after⟩, hread, hpair⟩ := Option.map_eq_some_iff.mp h
      cases hpair
      obtain ⟨inside, rfl, enclosed⟩ := ih hread
      exact ⟨c :: inside, rfl, .plain notMark notBackslash enclosed⟩

/-- A literal behind its opening mark is read to its closing mark. -/
theorem literal_enclosed {mark : Char} {inside value : List Char} (quotes : mark = '\'' ∨ mark = '"')
    (enclosed : Enclosed mark inside value) (rest : List Char) :
    literal mark (inside ++ mark :: rest) = .ok (.literal (.text (String.ofList value)), rest) := by
  have notBackslash : '\\' ≠ mark := by
    rcases quotes with rfl | rfl <;> decide
  rw [literal, unquote?_enclosed enclosed notBackslash]

/-- What a literal gives back was enclosed in its marks. -/
theorem literal_sound {mark : Char} {text rest : List Char} {expr : Expr}
    (h : literal mark text = .ok (expr, rest)) :
    ∃ inside value, text = inside ++ mark :: rest ∧ Enclosed mark inside value ∧
      expr = .literal (.text (String.ofList value)) := by
  rw [literal] at h
  cases hread : Text.unquote? mark text with
  | none => simp [hread] at h
  | some pair =>
      obtain ⟨value, after⟩ := pair
      rw [hread] at h
      cases h
      obtain ⟨inside, htext, enclosed⟩ := enclosed_of_unquote? hread
      exact ⟨inside, value, htext, enclosed, rfl⟩

/-! ### Relations -/

theorem symbol_toList (relation : Relation) : relation.symbol.toList =
    match relation with
    | .eq => ['=', '=']
    | .ne => ['!', '=']
    | .gt => ['>']
    | .lt => ['<']
    | .ge => ['>', '=']
    | .le => ['<', '='] := by
  cases relation <;> rfl

/-- The spelling of a relation is read when no equals sign goes on with it. -/
theorem relation?_spelled {relation : Relation} {spelling rest : List Char}
    (spelled : (Token.relation relation).Spelled spelling) (apart : StopsAt (· == '=') rest) :
    relation? (spelling ++ rest) = some (relation, rest) := by
  have noEquals : ∀ tail, rest ≠ '=' :: tail := by
    rintro tail rfl
    exact absurd (apart '=' rfl) (by simp)
  cases spelled with
  | relation =>
      rw [symbol_toList]
      cases relation with
      | ge => rfl
      | le => rfl
      | eq | ne | gt | lt =>
          simp only [List.cons_append, List.nil_append]
          unfold relation?
          split <;> simp_all
  | longEq => rfl
  | longNe => rfl

/-- What is read as a relation is a spelling of it. -/
theorem relation?_sound {text rest : List Char} {relation : Relation}
    (h : relation? text = some (relation, rest)) :
    ∃ spelling, text = spelling ++ rest ∧ (Token.relation relation).Spelled spelling := by
  unfold relation? at h
  split at h <;> cases h
  · exact ⟨['=', '=', '='], rfl, .longEq⟩
  · exact ⟨['=', '='], rfl, .relation .eq⟩
  · exact ⟨['!', '=', '='], rfl, .longNe⟩
  · exact ⟨['!', '='], rfl, .relation .ne⟩
  · exact ⟨['>', '='], rfl, .relation .ge⟩
  · exact ⟨['<', '='], rfl, .relation .le⟩
  · exact ⟨['>'], rfl, .relation .gt⟩
  · exact ⟨['<'], rfl, .relation .lt⟩

/-! ### Numbers -/

/-- A number is read whole when what follows is kept apart from it. -/
theorem number_spelled {value : Number} {spelling rest : List Char}
    (spelled : (Token.scalar (.number value)).Spelled spelling) (apart : Apart rest) :
    startsNumber (spelling ++ rest) = true ∧
      number (spelling ++ rest) = .ok (.literal (.number value), rest) := by
  cases spelled with
  | @number minus digits first value sign digit others reads =>
      have inside : ∀ c ∈ first :: digits, isNumberChar c = true := by
        intro c hc
        rw [isNumberChar, Bool.or_eq_true, beq_iff_eq]
        rcases List.mem_cons.mp hc with rfl | hc
        · exact .inl digit
        · exact others c hc
      have notMinus : first ≠ '-' := by
        rintro rfl
        exact absurd digit (by decide)
      have taken : takeNumber (minus ++ first :: digits ++ rest) = (minus ++ first :: digits, rest) := by
        rcases sign with rfl | rfl
        · rw [List.nil_append, takeNumber.eq_2 _ (by simp [notMinus]),
            Text.takeWhile_run inside apart.number, Text.dropWhile_run inside apart.number]
        · rw [List.append_assoc, List.singleton_append, takeNumber.eq_1,
            Text.takeWhile_run inside apart.number, Text.dropWhile_run inside apart.number]
          rfl
      constructor
      · rcases sign with rfl | rfl
        · simp [startsNumber, digit, notMinus]
        · simp [startsNumber, digit]
      · rw [number, taken]
        simp [reads]

/-- What a number takes off the front of a text is a sign, a digit, and digits and points. -/
theorem takeNumber_sound {text : List Char} (starts : startsNumber text = true) :
    ∃ minus first digits rest, (minus = [] ∨ minus = ['-']) ∧ first.isDigit = true ∧
      (∀ c ∈ digits, c.isDigit = true ∨ c = '.') ∧ text = (minus ++ first :: digits) ++ rest ∧
      takeNumber text = (minus ++ first :: digits, rest) := by
  have others : ∀ (tail : List Char), ∀ c ∈ tail.takeWhile isNumberChar, c.isDigit = true ∨ c = '.' := by
    intro tail c hc
    simpa [isNumberChar] using List.mem_takeWhile_imp hc
  have hrun : ∀ {c : Char} (tail : List Char), c.isDigit = true →
      (c :: tail).takeWhile isNumberChar = c :: tail.takeWhile isNumberChar ∧
        (c :: tail).dropWhile isNumberChar = tail.dropWhile isNumberChar := by
    intro c tail hc
    have hnumber : isNumberChar c = true := by rw [isNumberChar, hc, Bool.true_or]
    exact ⟨List.takeWhile_cons_of_pos hnumber, List.dropWhile_cons_of_pos hnumber⟩
  unfold startsNumber at starts
  split at starts
  case h_1 c tail =>
    refine ⟨['-'], c, tail.takeWhile isNumberChar, tail.dropWhile isNumberChar, .inr rfl, starts,
      others tail, ?_, ?_⟩
    · simp
    · rw [takeNumber.eq_1, (hrun tail starts).1, (hrun tail starts).2]
      rfl
  case h_2 c tail _ =>
    have notMinus : c ≠ '-' := by
      rintro rfl
      exact absurd starts (by decide)
    refine ⟨[], c, tail.takeWhile isNumberChar, tail.dropWhile isNumberChar, .inl rfl, starts,
      others tail, ?_, ?_⟩
    · simp
    · rw [takeNumber.eq_2 _ (by simp [notMinus]), (hrun tail starts).1, (hrun tail starts).2]
      rfl
  case h_3 => cases starts

/-- What is read where a number begins is a spelling of it. -/
theorem number_sound {text rest : List Char} {expr : Expr} (starts : startsNumber text = true)
    (h : number text = .ok (expr, rest)) :
    ∃ spelling value, text = spelling ++ rest ∧ (Token.scalar (.number value)).Spelled spelling ∧
      expr = .literal (.number value) := by
  obtain ⟨minus, first, digits, after, sign, digit, others, htext, htaken⟩ := takeNumber_sound starts
  rw [number, htaken] at h
  cases hvalue : Number.ofText? (minus ++ first :: digits) with
  | none => simp [hvalue] at h
  | some value =>
      simp only [hvalue] at h
      cases h
      exact ⟨minus ++ first :: digits, value, htext, .number sign digit others hvalue, rfl⟩

/-! ### Paths -/

/-- The steps of a path are read whole when what follows is kept apart from them. -/
theorem steps_pathTail {names : List String} {tail rest : List Char} (joined : PathTail names tail)
    (apart : Apart rest) : ∀ {bound : Nat}, (tail ++ rest).length ≤ bound →
      steps bound (tail ++ rest) = .ok (names, rest) := by
  induction joined with
  | nil =>
      intro bound hbound
      cases bound with
      | zero => rfl
      | succ bound => simp [steps, apart.stepJoint?]
  | @step joint name tail names joined named others ih =>
      intro bound hbound
      rw [List.append_assoc, List.append_assoc] at hbound ⊢
      have behind : StopsAt Text.isFieldChar (tail ++ rest) := by
        cases others with
        | nil => exact apart.field
        | step joined' _ _ => rcases joined' with rfl | rfl <;> simp [StopsAt] <;> decide
      have hpos : 0 < joint.length := by
        rcases joined with rfl | rfl <;> simp
      cases bound with
      | zero => simp only [List.length_append] at hbound; omega
      | succ bound =>
          have hstep : stepJoint? (joint ++ (name ++ (tail ++ rest))) = some (name ++ (tail ++ rest)) := by
            rcases joined with rfl | rfl <;> rfl
          have hrest : (tail ++ rest).length ≤ bound := by
            simp only [List.length_append] at hbound ⊢
            omega
          simp only [steps, hstep, Text.takeWhile_run named.2 behind, Text.dropWhile_run named.2 behind,
            ih hrest]
          simp [named.1]
          rfl

theorem stepJoint?_sound {text rest : List Char} (h : stepJoint? text = some rest) :
    ∃ joint, text = joint ++ rest ∧ IsJoint joint := by
  unfold stepJoint? at h
  split at h <;> cases h
  · exact ⟨['?', '.'], rfl, .inr rfl⟩
  · exact ⟨['.'], rfl, .inl rfl⟩

/-- What is read as steps is a way to join them. -/
theorem steps_sound : ∀ {bound : Nat} {text rest : List Char} {names : List String},
    steps bound text = .ok (names, rest) → ∃ tail, text = tail ++ rest ∧ PathTail names tail
  | 0, text, rest, names, h => by
      cases h
      exact ⟨[], rfl, .nil⟩
  | bound + 1, text, rest, names, h => by
      simp only [steps] at h
      split at h
      case h_1 =>
        cases h
        exact ⟨[], rfl, .nil⟩
      case h_2 after hjoint =>
        obtain ⟨joint, rfl, joined⟩ := stepJoint?_sound hjoint
        split at h
        case isTrue => cases h
        case isFalse hname =>
          obtain ⟨⟨names, rest⟩, hsteps, hpair⟩ := bind_eq_ok h
          cases hpair
          obtain ⟨tail, htail, others⟩ := steps_sound hsteps
          refine ⟨joint ++ (after.takeWhile Text.isFieldChar ++ tail), ?_, .step joined ⟨?_, ?_⟩ others⟩
          · rw [List.append_assoc, List.append_assoc, ← htail, List.takeWhile_append_dropWhile]
          · simpa using hname
          · exact fun c => List.mem_takeWhile_imp

/-! ### Words -/

variable {bound : Nat} {inner : Parser}

/-- A primary that begins like a name is a word. -/
theorem primary_word {c : Char} (text : List Char) (hname : Text.isNameChar c = true)
    (hdigit : c.isDigit = false) : primary bound inner (c :: text) = word bound inner (c :: text) := by
  have hmark : c ≠ '(' ∧ c ≠ '\'' ∧ c ≠ '"' ∧ c ≠ '-' := by
    refine ⟨?_, ?_, ?_, ?_⟩ <;> rintro rfl <;> exact absurd hname (by decide)
  have hstarts : startsNumber (c :: text) = false := by
    unfold startsNumber
    split <;> simp_all
  unfold primary
  split <;> simp_all

/-- A word is taken whole, and its name tells how it goes on. -/
theorem word_run {name rest : List Char} (nonempty : name ≠ []) (inside : ∀ c ∈ name, Text.isNameChar c = true)
    (stops : StopsAt Text.isNameChar rest) : word bound inner (name ++ rest) =
      if String.ofList name = "record" then do
        let (names, rest) ← steps bound rest
        .ok (.path names, rest)
      else
        match keyword? (String.ofList name), Function.ofName? (String.ofList name) with
        | some scalar, _ => .ok (.literal scalar, rest)
        | none, some function => call bound inner function rest
        | none, none => .error (.fault (.unknownFunction (String.ofList name))) := by
  unfold word
  rw [Text.takeWhile_run inside stops, Text.dropWhile_run inside stops]
  exact if_neg fun empty => nonempty (List.isEmpty_iff.mp empty)

/-- A path is read whole where it ends. -/
theorem primary_path {names : List String} {tail rest : List Char} (joined : PathTail names tail)
    (apart : Apart rest) (hbound : (tail ++ rest).length ≤ bound) :
    primary bound inner (['r', 'e', 'c', 'o', 'r', 'd'] ++ (tail ++ rest)) = .ok (.path names, rest) := by
  have stops : StopsAt Text.isNameChar (tail ++ rest) := by
    cases joined with
    | nil => exact apart.name
    | step hjoint _ _ => rcases hjoint with rfl | rfl <;> simp [StopsAt] <;> decide
  rw [List.cons_append, primary_word _ (by decide) (by decide), ← List.cons_append,
    word_run (by simp) (List.all_eq_true.mp (by decide)) stops, if_pos (by decide),
    steps_pathTail joined apart hbound]
  rfl

/-- The name of a function leads to its arguments. -/
theorem primary_function (function : Function) {rest : List Char} (stops : StopsAt Text.isNameChar rest) :
    primary bound inner (function.name.toList ++ rest) = call bound inner function rest := by
  have begins : primary bound inner (function.name.toList ++ rest) =
      word bound inner (function.name.toList ++ rest) := by
    cases function <;> exact primary_word _ (by decide) (by decide)
  have notRecord : function.name ≠ "record" := by
    cases function <;> decide
  have notKeyword : keyword? function.name = none := by
    cases function <;> rfl
  have found : Function.ofName? function.name = some function := by
    cases function <;> decide
  have inside : ∀ c ∈ function.name.toList, Text.isNameChar c = true := by
    cases function <;> exact List.all_eq_true.mp (by decide)
  rw [begins, word_run (by cases function <;> decide) inside stops, String.ofList_toList, if_neg notRecord,
    notKeyword, found]

/-- A keyword is read whole and stands for its scalar. -/
theorem primary_keyword {c : Char} {name rest : List Char} {value : Scalar}
    (inside : (c :: name).all Text.isNameChar = true) (letter : c.isDigit = false)
    (notRecord : String.ofList (c :: name) ≠ "record")
    (keyword : keyword? (String.ofList (c :: name)) = some value) (stops : StopsAt Text.isNameChar rest) :
    primary bound inner ((c :: name) ++ rest) = .ok (.literal value, rest) := by
  replace inside := List.all_eq_true.mp inside
  rw [List.cons_append, primary_word _ (inside c List.mem_cons_self) letter, ← List.cons_append,
    word_run (List.cons_ne_nil c name) inside stops, if_neg notRecord, keyword]

/-- A primary that begins like a number is one. -/
theorem primary_number {text : List Char} (starts : startsNumber text = true) :
    primary bound inner text = number text := by
  unfold primary
  split
  case h_1 | h_2 | h_3 => cases starts
  case h_4 => rw [if_pos starts]

/-- A scalar is read whole when what follows is kept apart from it. -/
theorem primary_scalar {value : Scalar} {spelling rest : List Char}
    (spelled : (Token.scalar value).Spelled spelling) (apart : Apart rest) :
    primary bound inner (spelling ++ rest) = .ok (.literal value, rest) := by
  cases spelled with
  | text quotes enclosed =>
      rw [List.cons_append, List.append_assoc, List.singleton_append]
      rcases quotes with rfl | rfl
      · exact literal_enclosed (.inl rfl) enclosed rest
      · exact literal_enclosed (.inr rfl) enclosed rest
  | number sign digit others reads =>
      obtain ⟨starts, hnumber⟩ := number_spelled (.number sign digit others reads) apart
      rw [primary_number starts, hnumber]
  | bool value =>
      cases value with
      | true => exact primary_keyword (by decide) (by decide) (by decide) rfl apart.name
      | false => exact primary_keyword (by decide) (by decide) (by decide) rfl apart.name
  | null => exact primary_keyword (by decide) (by decide) (by decide) rfl apart.name
  | undefined => exact primary_keyword (by decide) (by decide) (by decide) rfl apart.name

end FilterTree.Predicate
