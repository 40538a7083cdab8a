/-
Module: FilterTree.Proofs.Verdict.DayTexts
Layer: Proofs
Purpose: The texts that say a day. In front of the first `T`, and trimmed, they are three numerals with a hyphen
  between each two: digits, with a plus in front of them or not. No numeral holds a hyphen, so no year is below
  zero. Zeros in front of a number leave its value, and what stands behind a `T` is not looked at.
Imports: FilterTree.Proofs.Text.Cuts, FilterTree.Proofs.Verdict.Days
Main exports: Text.Numeral, Text.unsigned?_eq_some_iff, Day.Written, Day.ofText?_eq_some_iff, Day.reads_written
-/
import FilterTree.Proofs.Text.Cuts
import FilterTree.Proofs.Verdict.Days

namespace FilterTree

namespace Text

/-! ### Numerals -/

/-- A numeral and its value: decimal digits, at least one, and a plus in front of them or not. -/
inductive Numeral : List Char → Nat → Prop where
  | mk {plus digits : List Char} (sign : plus = [] ∨ plus = ['+']) (nonempty : digits ≠ [])
      (decimal : ∀ c ∈ digits, c.isDigit = true) : Numeral (plus ++ digits) (Nat.ofDigitChars 10 digits 0)

/-- In base ten the digits are those of ASCII. -/
theorem digit?_ten (c : Char) : digit? 10 c = if c.isDigit then some (c.toNat - '0'.toNat) else none := by
  unfold digit?
  by_cases decimal : c.isDigit = true
  · have small : c.toNat - '0'.toNat < 10 := by
      have bounds := Char.isDigit_iff_toNat.mp decimal
      have zero : '0'.toNat = 48 := rfl
      have nine : '9'.toNat = 57 := rfl
      omega
    simp only [decimal, if_true, if_pos small]
  · -- The letters begin at ten, so none of them is a digit of base ten.
    have large : ¬ (if ('a' ≤ c && c ≤ 'f') = true then c.toNat - 'a'.toNat + 10
        else if ('A' ≤ c && c ≤ 'F') = true then c.toNat - 'A'.toNat + 10 else 10) < 10 := by
      split
      · omega
      · split <;> omega
    simp only [eq_false_of_ne_true decimal, Bool.false_eq_true, if_false, if_neg large]

/-- Digits are read on from a number as far as there are digits. -/
theorem foldl_digit? (text : List Char) (start : Nat) :
    text.foldl (fun value c => do return 10 * (← value) + (← digit? 10 c)) (some start) =
      if text.all Char.isDigit then some (Nat.ofDigitChars 10 text start) else none := by
  have stuck : ∀ rest : List Char,
      rest.foldl (fun value c => do return 10 * (← value) + (← digit? 10 c)) (none : Option Nat) = none := by
    intro rest
    induction rest with
    | nil => rfl
    | cons c rest ih => exact ih
  induction text generalizing start with
  | nil => rfl
  | cons c text ih =>
      rw [List.foldl_cons, List.all_cons, digit?_ten]
      by_cases decimal : c.isDigit = true
      · rw [if_pos decimal, decimal, Bool.true_and, Nat.ofDigitChars_cons, ← ih]
        rfl
      · rw [if_neg decimal, eq_false_of_ne_true decimal, Bool.false_and, if_neg Bool.false_ne_true]
        exact stuck text

/-- Decimal digits are read as their value, and nothing else is read. -/
theorem natural?_eq_some_iff {text : List Char} {value : Nat} : natural? 10 text = some value ↔
    text ≠ [] ∧ (∀ c ∈ text, c.isDigit = true) ∧ Nat.ofDigitChars 10 text 0 = value := by
  cases text with
  | nil => simp [natural?]
  | cons c rest =>
      rw [natural?, foldl_digit?, ← List.all_eq_true]
      simp

/-- Numerals are read as their value, and nothing else is read. -/
theorem unsigned?_eq_some_iff {text : List Char} {value : Nat} :
    unsigned? text = some value ↔ Numeral text value := by
  constructor
  · intro reads
    unfold unsigned? at reads
    split at reads
    · obtain ⟨nonempty, decimal, rfl⟩ := natural?_eq_some_iff.mp reads
      exact @Numeral.mk ['+'] _ (.inr rfl) nonempty decimal
    · obtain ⟨nonempty, decimal, rfl⟩ := natural?_eq_some_iff.mp reads
      exact @Numeral.mk [] _ (.inl rfl) nonempty decimal
  · intro numeral
    cases numeral with
    | @mk plus digits sign nonempty decimal =>
        have reads := natural?_eq_some_iff.mpr ⟨nonempty, decimal, rfl⟩
        rcases sign with rfl | rfl
        · have noPlus : ∀ rest, digits ≠ '+' :: rest := by
            rintro rest rfl
            exact absurd (decimal '+' List.mem_cons_self) (by decide)
          rw [List.nil_append, unsigned?.eq_2 _ noPlus]
          exact reads
        · exact reads

/-- A numeral holds nothing but digits and a plus. -/
theorem Numeral.not_mem {text : List Char} {value : Nat} (numeral : Numeral text value) {c : Char}
    (noPlus : c ≠ '+') (noDigit : c.isDigit = false) : c ∉ text := by
  intro hmem
  cases numeral with
  | mk sign nonempty decimal =>
      rcases List.mem_append.mp hmem with inSign | inDigits
      · rcases sign with rfl | rfl
        · exact absurd inSign List.not_mem_nil
        · exact noPlus (List.mem_singleton.mp inSign)
      · rw [decimal c inDigits] at noDigit
        cases noDigit

/-! ### Zeros in front -/

/-- No digit stands at the end of a text, so a number behind it begins there. -/
def EndsNumber (front : List Char) : Prop :=
  ∀ last ∈ front.getLast?, last.isDigit = false

theorem EndsNumber.exists_noDigit {front : List Char} (ends : EndsNumber front) (nonempty : front ≠ []) :
    ∃ c ∈ front, c.isDigit = false :=
  ⟨front.getLast nonempty, List.getLast_mem nonempty, ends _ (List.getLast?_eq_some_getLast nonempty)⟩

theorem EndsNumber.of_append {before front : List Char} (ends : EndsNumber (before ++ front)) :
    EndsNumber front := by
  intro last hlast
  refine ends last ?_
  rw [Option.mem_def, List.getLast?_append, Option.mem_def.mp hlast, Option.some_or]

/-- Where neither a number nor its plus begins, no numeral does. -/
theorem unsigned?_eq_none {front : List Char} (ends : EndsNumber front) (nonempty : front ≠ [])
    (noSign : front ≠ ['+']) (tail : List Char) : unsigned? (front ++ tail) = none := by
  rw [Option.eq_none_iff_forall_ne_some]
  intro value reads
  rw [unsigned?_eq_some_iff] at reads
  generalize htext : front ++ tail = text at reads
  cases reads with
  | @mk plus digits sign _ decimal =>
      rcases sign with rfl | rfl
      · obtain ⟨c, hmem, noDigit⟩ := ends.exists_noDigit nonempty
        rw [List.nil_append] at htext
        rw [decimal c (htext ▸ List.mem_append_left tail hmem)] at noDigit
        cases noDigit
      · cases front with
        | nil => exact nonempty rfl
        | cons d rest =>
            injection htext with hsign hrest
            have more : rest ≠ [] := by
              rintro rfl
              exact noSign (congrArg (fun c => [c]) hsign)
            obtain ⟨c, hmem, noDigit⟩ := (@EndsNumber.of_append [d] rest ends).exists_noDigit more
            have hdigits : rest ++ tail = digits := hrest
            rw [decimal c (hdigits ▸ List.mem_append_left tail hmem)] at noDigit
            cases noDigit

/-- A zero in front of a number leaves its value. -/
theorem unsigned?_zero {front : List Char} {c : Char} (ends : EndsNumber front) (digit : c.isDigit = true)
    (behind : List Char) : unsigned? (front ++ '0' :: c :: behind) = unsigned? (front ++ c :: behind) := by
  by_cases empty : front = []
  · have noPlus : ∀ rest, c :: behind ≠ '+' :: rest := by
      rintro rest h
      cases h
      exact absurd digit (by decide)
    rw [empty, List.nil_append, List.nil_append, unsigned?.eq_2 _ noPlus]
    rfl
  · by_cases sign : front = ['+']
    · rw [sign]
      rfl
    · rw [unsigned?_eq_none ends empty sign, unsigned?_eq_none ends empty sign]

/-- A zero in front of a number leaves the values of all parts between separators that are no digits. -/
theorem splitOn_zero {separator c : Char} (noDigit : separator.isDigit = false) (digit : c.isDigit = true)
    {front : List Char} (ends : EndsNumber front) (behind : List Char) :
    List.Forall₂ (fun a b => unsigned? a = unsigned? b) (splitOn separator (front ++ '0' :: c :: behind))
      (splitOn separator (front ++ c :: behind)) := by
  have other : ∀ {d : Char}, d.isDigit = true → separator ≠ d := by
    rintro d isDigit rfl
    rw [noDigit] at isDigit
    cases isDigit
  -- By the separators in front: the parts before the last one are the same.
  by_cases hmem : separator ∈ front
  · obtain ⟨part, rest, rfl, fresh⟩ := List.eq_append_cons_of_mem hmem
    have shorter : EndsNumber rest := (@EndsNumber.of_append (part ++ [separator]) rest (by simpa using ends))
    rw [List.append_assoc, List.append_assoc, List.cons_append, List.cons_append, splitOn_append fresh,
      splitOn_append fresh]
    exact .cons rfl (splitOn_zero noDigit digit shorter behind)
  · cases hparts : splitOn separator behind with
    | nil => exact absurd hparts (splitOn_ne_nil separator behind)
    | cons first others =>
        have padded : separator ∉ front ++ ['0', c] := by simp [hmem, other digit, @other '0' rfl]
        have plain : separator ∉ front ++ [c] := by simp [hmem, other digit]
        have hpadded := splitOn_prepend padded hparts
        have hplain := splitOn_prepend plain hparts
        simp only [List.append_assoc, List.cons_append, List.nil_append] at hpadded hplain
        rw [hpadded, hplain]
        exact .cons (unsigned?_zero ends digit first) (List.forall₂_same.mpr fun _ _ => rfl)
termination_by front.length

end Text

namespace Day

/-! ### The language of days -/

/-- A day with a month of a year and a day of a month. -/
structure InRange (day : Day) : Prop where
  year_le : day.year ≤ 2147483647
  month_pos : 1 ≤ day.month
  month_le : day.month ≤ 12
  day_pos : 1 ≤ day.day
  day_le : day.day ≤ 31

/-- A text says a day: in front of its first `T`, without the blanks at the ends, stand the numerals of the year, the
    month and the day of the month with a hyphen between each two. -/
inductive Written (day : Day) (text : List Char) : Prop where
  | mk {front core year month dayOfMonth : List Char} (inFront : Text.IsFront 'T' text front)
      (trimmed : Text.IsTrimmed front core) (parts : core = year ++ '-' :: (month ++ '-' :: dayOfMonth))
      (years : Text.Numeral year day.year) (months : Text.Numeral month day.month)
      (days : Text.Numeral dayOfMonth day.day) (inRange : day.InRange)

theorem number?_eq_some_iff {limit value : Nat} {text : List Char} :
    number? limit text = some value ↔ Text.Numeral text value ∧ value ≤ limit := by
  rw [number?, Option.filter_eq_some_iff, Text.unsigned?_eq_some_iff, decide_eq_true_eq]

/-- A day is read from a text exactly when the text says it. -/
theorem ofText?_eq_some_iff {day : Day} {text : List Char} : ofText? text = some day ↔ day.Written text := by
  constructor
  · intro reads
    unfold ofText? at reads
    split at reads
    case h_1 year month dayOfMonth hparts =>
      simp only [Option.bind_eq_bind, Option.bind_eq_some_iff, number?_eq_some_iff] at reads
      obtain ⟨y, ⟨years, year_le⟩, m, ⟨months, -⟩, d, ⟨days, -⟩, checked⟩ := reads
      split at checked
      case isTrue inRange =>
        cases checked
        obtain ⟨month_pos, month_le, day_pos, day_le⟩ := inRange
        exact .mk (Text.takeWhile_eq_iff.mp rfl) (Text.trim_eq_iff.mp rfl) (Text.splitOn_eq_three_iff.mp hparts).1
          years months days ⟨year_le, month_pos, month_le, day_pos, day_le⟩
      case isFalse => cases checked
    case h_2 => cases reads
  · rintro ⟨inFront, trimmed, parts, years, months, days, inRange⟩
    have noHyphen : ∀ {text : List Char} {value : Nat}, Text.Numeral text value → '-' ∉ text :=
      fun numeral => numeral.not_mem (by decide) (by decide)
    have hparts := Text.splitOn_eq_three_iff.mpr ⟨parts, noHyphen years, noHyphen months, noHyphen days⟩
    have hyear := number?_eq_some_iff.mpr ⟨years, inRange.year_le⟩
    have hmonth : number? 255 _ = _ := number?_eq_some_iff.mpr ⟨months, by have := inRange.month_le; omega⟩
    have hday : number? 255 _ = _ := number?_eq_some_iff.mpr ⟨days, by have := inRange.day_le; omega⟩
    rw [ofText?, dayPart, Text.takeWhile_eq_iff.mpr inFront, Text.trim_eq_iff.mpr trimmed, hparts]
    simp only [hyear, hmonth, hday, Option.bind_eq_bind, Option.bind_some]
    exact if_pos ⟨inRange.month_pos, inRange.month_le, inRange.day_pos, inRange.day_le⟩

/-- What the parts of a text have as their values decides the day. -/
theorem ofText?_congr {first second : List Char}
    (same : List.Forall₂ (fun a b => Text.unsigned? a = Text.unsigned? b)
      (Text.splitOn '-' (dayPart first)) (Text.splitOn '-' (dayPart second))) :
    ofText? first = ofText? second := by
  unfold ofText?
  generalize Text.splitOn '-' (dayPart first) = xs, Text.splitOn '-' (dayPart second) = ys at same
  rcases same with _ | ⟨years, _ | ⟨months, _ | ⟨days, _ | _⟩⟩⟩
  · rfl
  · rfl
  · rfl
  · simp only [number?, years, months, days]
  · rfl

/-- A digit is solid, so a piece of digits keeps its place when the text is trimmed. -/
theorem stopsAt_isBlank {c : Char} (digit : c.isDigit = true) (rest : List Char) :
    Text.StopsAt Text.isBlank (c :: rest) := by
  intro d hd
  rw [List.head?_cons, Option.mem_some_iff] at hd
  rw [← hd, Bool.eq_false_iff]
  intro blank
  have noField := Text.isFieldChar_of_isBlank blank
  rw [Predicate.isFieldChar_of_isDigit digit] at noField
  cases noField

/-- A zero in front of a number in a text leaves the day that is read. -/
theorem ofText?_zero {front : List Char} {c : Char} (ends : Text.EndsNumber front) (digit : c.isDigit = true)
    (behind : List Char) : ofText? (front ++ '0' :: c :: behind) = ofText? (front ++ c :: behind) := by
  by_cases stamped : 'T' ∈ front
  · obtain ⟨part, rest, rfl⟩ := List.append_of_mem stamped
    rw [List.append_assoc, List.append_assoc, List.cons_append, List.cons_append, ofText?_behind, ofText?_behind]
  · have inside : ∀ d ∈ front, (d != 'T') = true := by
      intro d hmem
      rw [bne_iff_ne]
      rintro rfl
      exact stamped hmem
    have noStamp : (c != 'T') = true := by
      rw [bne_iff_ne]
      rintro rfl
      exact absurd digit (by decide)
    have hpadded := Text.trim_around (List.cons_ne_nil '0' [c]) (stopsAt_isBlank rfl _) (stopsAt_isBlank digit _)
      front (behind.takeWhile (· != 'T'))
    have hplain := Text.trim_around (List.cons_ne_nil c []) (stopsAt_isBlank digit _) (stopsAt_isBlank digit _)
      front (behind.takeWhile (· != 'T'))
    have shorter : Text.EndsNumber (Text.skipBlanks front) := by
      obtain ⟨blanks, -, hfront⟩ := Text.exists_blanks front
      rw [hfront] at ends
      exact ends.of_append
    refine ofText?_congr ?_
    rw [dayPart, dayPart, List.takeWhile_append_of_pos inside, List.takeWhile_append_of_pos inside,
      List.takeWhile_cons_of_pos rfl, List.takeWhile_cons_of_pos (p := (· != 'T')) noStamp]
    simp only [List.cons_append, List.nil_append] at hpadded hplain
    rw [hpadded, hplain]
    exact Text.splitOn_zero rfl digit shorter _

/-- The texts of days. A day is read from a text exactly when the text says it: trimmed and up to its first `T`, it
    is the numerals of the year, the month and the day of the month with a hyphen between each two, and these are
    in the range of the calendar. A zero in front of any number in the text changes nothing, and neither does what
    stands from the first `T` on. -/
theorem reads_written :
    (∀ (day : Day) (text : List Char), ofText? text = some day ↔ day.Written text) ∧
    (∀ (front : List Char) (c : Char) (behind : List Char), Text.EndsNumber front → c.isDigit = true →
      ofText? (front ++ '0' :: c :: behind) = ofText? (front ++ c :: behind)) ∧
    ∀ text behind : List Char, ofText? (text ++ 'T' :: behind) = ofText? text :=
  ⟨fun _ _ => ofText?_eq_some_iff, fun _ _ behind ends digit => ofText?_zero ends digit behind, ofText?_behind⟩

/-- A plus, zeros, blanks and a time leave a day as it is, and a minus in front of the year makes it none. -/
theorem reads_written_of_padded :
    let march : Day := ⟨2024, 3, 1⟩
    march.Written "2024-03-1".toList ∧ march.Written " +2024-003-1 T-23:59".toList ∧
      (∀ day : Day, ¬ day.Written "-2024-03-01".toList) ∧ (∀ day : Day, ¬ day.Written "2147483648-03-01".toList) ∧
      ofText? "2024-003-1".toList = ofText? "2024-03-1".toList ∧
      ofText? "2024-03-1T-23:59".toList = ofText? "2024-03-1".toList := by
  intro march
  have noDay : ∀ {text : List Char}, ofText? text = none → ∀ day : Day, ¬ day.Written text := by
    intro text none day written
    rw [(reads_written.1 day text).mpr written] at none
    cases none
  have ends : Text.EndsNumber "2024-".toList := fun last hlast => by
    cases hlast
    rfl
  exact ⟨(reads_written.1 _ _).mp (by decide), (reads_written.1 _ _).mp (by decide), noDay (by decide),
    noDay (by decide), reads_written.2.1 "2024-".toList '0' "3-1".toList ends rfl,
    reads_written.2.2 "2024-03-1".toList "-23:59".toList⟩

end Day

end FilterTree
