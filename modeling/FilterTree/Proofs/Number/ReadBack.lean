/-
Module: FilterTree.Proofs.Number.ReadBack
Layer: Proofs
Purpose: The text of a finite number reads back as that number. The search for the shortest decimal ends at a
  decimal that rounds to the number: on every grid but the last because it was tried, and on the last because
  every magnitude is a multiple there. Its digits in positional notation say that decimal again, and it is
  neither so large nor so small that reading would cut it short.
Imports: FilterTree.Proofs.Number.Rounding, FilterTree.Proofs.Text, FilterTree.Number.Shortest,
  FilterTree.Number.Decimal
Main exports: Number.shortest_rounds, Number.decimal?_magnitudeText, Number.ofText?_chars
-/
import FilterTree.Proofs.Number.Rounding
import FilterTree.Proofs.Text
import FilterTree.Number.Shortest
import FilterTree.Number.Decimal

namespace FilterTree.Number

open Text (digitsValue StopsAt)

/-! ### The search -/

/-- On the last grid every magnitude is a multiple. -/
theorem roundsTo_last (rank e : Nat) (h : unitsPerOne ∣ 10 ^ (e + 1)) :
    roundsTo rank (gridBelow rank (.negSucc e)).1 (.negSucc e) = true := by
  have hexact : units rank * 10 ^ (e + 1) / unitsPerOne * unitsPerOne = units rank * 10 ^ (e + 1) :=
    Nat.div_mul_cancel (Nat.dvd_mul_left_of_dvd h _)
  have hnearest : nearestRank (units rank * 10 ^ (e + 1)) (1 * 10 ^ (e + 1)) = rank := by
    rw [nearestRank_scale (Nat.pow_pos (by decide)), nearestRank_units]
  rw [Nat.one_mul] at hnearest
  simp only [roundsTo, gridBelow, gridPoint, Nat.pow_eq, hexact, hnearest, beq_self_eq_true]

theorem unitsPerOne_dvd {e : Nat} (h : e = 1074) : unitsPerOne ∣ 10 ^ e := by
  rw [unitsPerOne_eq h, show 10 = 2 * 5 from rfl, Nat.mul_pow]
  exact Nat.dvd_mul_right _ _

/-- The search ends at a decimal that rounds to the magnitude, if its last grid is the last of all. -/
theorem searchGrids_rounds (rank : Nat) {last : Nat} (hlast : last + 1 = 1074) (steps : Nat) (power : Int)
    (hpower : power - steps = .negSucc last) :
    roundsTo rank (searchGrids rank steps power).1 (searchGrids rank steps power).2 = true := by
  induction steps generalizing power with
  | zero =>
      obtain rfl : power = .negSucc last := by omega
      rw [searchGrids]
      exact roundsTo_last rank last (unitsPerOne_dvd hlast)
  | succ steps ih =>
      rw [searchGrids]
      split
      case isTrue rounds => exact rounds
      case isFalse => exact ih (power - 1) (by omega)

/-- The shortest decimal rounds to the magnitude. -/
theorem shortest_rounds (rank : Nat) : roundsTo rank (shortest rank).1 (shortest rank).2 = true := by
  obtain ⟨last, hlast⟩ : ∃ last, last + 1 = 1074 := ⟨1073, rfl⟩
  exact searchGrids_rounds rank hlast _ _ (by omega)

/-! ### The size of a decimal that rounds to a finite magnitude -/

theorem two_mul_unitsPerOne_le {e : Nat} (he : 359 ≤ e) : 2 * unitsPerOne ≤ 10 ^ e := by
  obtain ⟨k, hk⟩ : ∃ k, k = 1074 := ⟨1074, rfl⟩
  have hdigits : k + 1 ≤ 3 * e := by omega
  rw [unitsPerOne_eq hk, ← Nat.pow_succ']
  exact Nat.le_trans (Nat.pow_le_pow_right (by decide) hdigits) (two_pow_le_ten_pow e)

section Size

variable {rank count e : Nat}

/-- It is not zero. -/
theorem count_pos {power : Int} (hrank : rank ≠ 0) (h : roundsTo rank count power = true) : 0 < count := by
  rcases Nat.eq_zero_or_pos count with rfl | hpos
  · have hzero : ∀ {den : Nat}, 0 < den → nearestRank 0 den = 0 := fun hden => nearestRank_eq_zero hden
    cases power with
    | ofNat up =>
        simp only [roundsTo, gridPoint, Nat.pow_eq, Nat.zero_mul, hzero Nat.one_pos, beq_iff_eq] at h
        exact absurd h.symm hrank
    | negSucc down =>
        have hden : 0 < 10 ^ (down + 1) := Nat.pow_pos (by decide)
        simp only [roundsTo, gridPoint, Nat.pow_eq, Nat.zero_mul, hzero hden, beq_iff_eq] at h
        exact absurd h.symm hrank
  · exact hpos

/-- Whole decimals stay below the power of ten at which reading says infinity. -/
theorem whole_lt {up : Nat} (he : 342 ≤ e) (hrank : rank < rankBound)
    (h : roundsTo rank count (.ofNat up) = true) : count * 10 ^ up < 10 ^ e := by
  rw [← Nat.not_le]
  intro hlarge
  have hinfinite : rankBound ≤ nearestRank (count * 10 ^ up * unitsPerOne) 1 := by
    apply rankBound_le_nearestRank Nat.one_pos he
    rw [Nat.mul_one]
    exact Nat.mul_le_mul_right _ hlarge
  simp only [roundsTo, gridPoint, Nat.pow_eq, beq_iff_eq] at h
  omega

/-- So do decimals with a fraction. -/
theorem fraction_lt {down : Nat} (he : 342 ≤ e) (hrank : rank < rankBound)
    (h : roundsTo rank count (.negSucc down) = true) : count < 10 ^ (e + (down + 1)) := by
  rw [← Nat.not_le]
  intro hlarge
  have hinfinite : rankBound ≤ nearestRank (count * unitsPerOne) (10 ^ (down + 1)) := by
    apply rankBound_le_nearestRank (Nat.pow_pos (by decide)) he
    rw [Nat.mul_right_comm, ← Nat.pow_add]
    exact Nat.mul_le_mul_right _ hlarge
  simp only [roundsTo, gridPoint, Nat.pow_eq, beq_iff_eq] at h
  omega

/-- They do not fall to where reading says zero either. -/
theorem le_fraction {down : Nat} (he : 359 ≤ e) (hrank : rank ≠ 0)
    (h : roundsTo rank count (.negSucc down) = true) : 10 ^ (down + 1) ≤ count * 10 ^ e := by
  rw [← Nat.not_lt]
  intro hsmall
  have hzero : nearestRank (count * unitsPerOne) (10 ^ (down + 1)) = 0 := by
    apply nearestRank_eq_zero
    calc
      2 * (count * unitsPerOne) = count * (2 * unitsPerOne) := Nat.mul_left_comm 2 count unitsPerOne
      _ ≤ count * 10 ^ e := Nat.mul_le_mul_left _ (two_mul_unitsPerOne_le he)
      _ < 10 ^ (down + 1) := hsmall
  simp only [roundsTo, gridPoint, Nat.pow_eq, beq_iff_eq] at h
  omega

end Size

/-! ### Rounding what was read -/

theorem length_toDigits_le {n k : Nat} (hk : 0 < k) : (Nat.toDigits 10 n).length ≤ k ↔ n < 10 ^ k :=
  Nat.length_toDigits_le_iff (by decide) hk

section OfDecimal

variable {mantissa e : Nat}

/-- Zero times any power of ten is zero. -/
theorem ofDecimal_zero (negative : Bool) (exponent : Int) :
    ofDecimal negative 0 exponent = ofRank negative 0 := by
  simp only [ofDecimal.eq_def, decide_true, Bool.true_or, if_true]

/-- A whole decimal below the bound is rounded as it is. -/
theorem ofDecimal_whole (negative : Bool) (hpos : 0 < mantissa) (he : 0 < e ∧ e ≤ 400)
    (h : mantissa < 10 ^ e) :
    ofDecimal negative mantissa (.ofNat 0) = ofRank negative (nearestRank (mantissa * unitsPerOne) 1) := by
  have hlength : (Nat.toDigits 10 mantissa).length ≤ e := (length_toDigits_le he.1).mpr h
  have hzero : ¬ (mantissa = 0 ∨ ((Nat.toDigits 10 mantissa).length : Int) + .ofNat 0 < -400) := by
    simp only [Int.ofNat_eq_natCast]
    omega
  have hinfinite : ¬ 400 < ((Nat.toDigits 10 mantissa).length : Int) + .ofNat 0 := by
    simp only [Int.ofNat_eq_natCast]
    omega
  simp only [ofDecimal.eq_def, Nat.pow_eq, Bool.or_eq_true, decide_eq_true_eq, hzero, hinfinite, if_false,
    Nat.pow_zero, Nat.mul_one, ofMagnitude]

/-- A decimal with a fraction between the bounds is rounded as it is. -/
theorem ofDecimal_fraction (negative : Bool) {down : Nat} (hpos : 0 < mantissa) (he : e ≤ 400)
    (high : mantissa < 10 ^ (e + (down + 1))) (low : 10 ^ (down + 1) ≤ mantissa * 10 ^ e) :
    ofDecimal negative mantissa (.negSucc down) =
      ofRank negative (nearestRank (mantissa * unitsPerOne) (10 ^ (down + 1))) := by
  have hshort : (Nat.toDigits 10 mantissa).length ≤ e + (down + 1) :=
    (length_toDigits_le (by omega)).mpr high
  have hlong : down + 1 ≤ (Nat.toDigits 10 mantissa).length + e := by
    rw [← Nat.not_lt]
    intro hsmall
    have hbelow : mantissa < 10 ^ (Nat.toDigits 10 mantissa).length :=
      (length_toDigits_le Nat.length_toDigits_pos).mp (Nat.le_refl _)
    have hproduct : mantissa * 10 ^ e < 10 ^ (down + 1) :=
      calc
        mantissa * 10 ^ e < 10 ^ (Nat.toDigits 10 mantissa).length * 10 ^ e :=
          Nat.mul_lt_mul_of_pos_right hbelow (Nat.pow_pos (by decide))
        _ = 10 ^ ((Nat.toDigits 10 mantissa).length + e) := (Nat.pow_add ..).symm
        _ ≤ 10 ^ (down + 1) := Nat.pow_le_pow_right (by decide) (Nat.le_of_lt hsmall)
    omega
  have hzero : ¬ (mantissa = 0 ∨ ((Nat.toDigits 10 mantissa).length : Int) + .negSucc down < -400) := by
    omega
  have hinfinite : ¬ 400 < ((Nat.toDigits 10 mantissa).length : Int) + .negSucc down := by
    omega
  simp only [ofDecimal.eq_def, Nat.pow_eq, Bool.or_eq_true, decide_eq_true_eq, hzero, hinfinite, if_false,
    ofMagnitude]

end OfDecimal

/-! ### Digits -/

theorem digitsValue_append (before : Nat) (a b : List Char) :
    digitsValue before (a ++ b) = digitsValue (digitsValue before a) b :=
  List.foldl_append

/-- Zeros at the end multiply by a power of ten. -/
theorem digitsValue_zeros (before n : Nat) :
    digitsValue before (List.replicate n '0') = before * 10 ^ n := by
  induction n generalizing before with
  | zero => simp [digitsValue]
  | succ n ih =>
      rw [List.replicate_succ]
      show digitsValue (10 * before + 0) (List.replicate n '0') = _
      rw [ih, Nat.add_zero, Nat.pow_succ', Nat.mul_comm 10 before, Nat.mul_assoc]

theorem digitsValue_toDigits (n : Nat) : digitsValue 0 (Nat.toDigits 10 n) = n :=
  Nat.ofDigitChars_toDigits (by decide) (by decide)

/-- Digits without a point are a whole decimal. -/
theorem decimal?_whole (negative : Bool) {digits : List Char} (nonempty : digits ≠ [])
    (inside : ∀ c ∈ digits, c.isDigit = true) :
    decimal? negative digits = some (ofDecimal negative (digitsValue 0 digits) (.ofNat 0)) := by
  have stops : StopsAt Char.isDigit [] := by simp [StopsAt]
  have whole := Text.takeWhile_run inside stops
  have after := Text.dropWhile_run inside stops
  rw [List.append_nil] at whole after
  simp only [decimal?, whole, after, List.isEmpty_iff, nonempty, List.isEmpty_nil, Bool.and_true, if_false,
    exponent?, Option.map_some]
  rfl

/-- Digits around a point are a decimal with a fraction. -/
theorem decimal?_point (negative : Bool) {whole fraction : List Char} {down : Nat} (nonempty : whole ≠ [])
    (before : ∀ c ∈ whole, c.isDigit = true) (behind : ∀ c ∈ fraction, c.isDigit = true)
    (hlength : fraction.length = down + 1) :
    decimal? negative (whole ++ '.' :: fraction) =
      some (ofDecimal negative (digitsValue 0 (whole ++ fraction)) (.negSucc down)) := by
  have stops : StopsAt Char.isDigit ('.' :: fraction) := by
    simp only [StopsAt, List.head?_cons, Option.mem_some_iff]
    rintro _ rfl
    decide
  have stopsEnd : StopsAt Char.isDigit [] := by simp [StopsAt]
  have taken := Text.takeWhile_run behind stopsEnd
  have left := Text.dropWhile_run behind stopsEnd
  rw [List.append_nil] at taken left
  have hexponent : (0 : Int) - (down + 1 : Nat) = .negSucc down := by omega
  simp only [decimal?, Text.takeWhile_run before stops, Text.dropWhile_run before stops, taken, left,
    List.isEmpty_iff, nonempty, Bool.and_eq_true, false_and, if_false, exponent?, Option.map_some, hlength,
    hexponent, digitsValue_append]

/-! ### Positional notation -/

/-- The text of a number without its sign: digits, with at most one point behind the first of them. -/
structure Unsigned (text : List Char) : Prop where
  begins : ∃ first others, text = first :: others ∧ first.isDigit = true
  inside : ∀ c ∈ text, c.isDigit = true ∨ c = '.'

theorem isDigit_toDigits {n : Nat} {c : Char} (h : c ∈ Nat.toDigits 10 n) : c.isDigit = true :=
  Nat.isDigit_of_mem_toDigits (b := 10) (by decide) (by decide) h

/-- Digits are the text of a number. -/
theorem Unsigned.digits {text : List Char} (nonempty : text ≠ []) (inside : ∀ c ∈ text, c.isDigit = true) :
    Unsigned text := by
  refine ⟨?_, fun c hc => .inl (inside c hc)⟩
  cases text with
  | nil => contradiction
  | cons first others => exact ⟨first, others, rfl, inside first List.mem_cons_self⟩

/-- So are digits around a point. -/
theorem Unsigned.point {whole fraction : List Char} (nonempty : whole ≠ [])
    (before : ∀ c ∈ whole, c.isDigit = true) (behind : ∀ c ∈ fraction, c.isDigit = true) :
    Unsigned (whole ++ '.' :: fraction) := by
  constructor
  · cases whole with
    | nil => contradiction
    | cons first others => exact ⟨first, others ++ '.' :: fraction, rfl, before first List.mem_cons_self⟩
  · intro c hc
    rcases List.mem_append.mp hc with hc | hc
    · exact .inl (before c hc)
    · rcases List.mem_cons.mp hc with rfl | hc
      · exact .inr rfl
      · exact .inl (behind c hc)

/-- A whole decimal in positional notation reads as itself. -/
theorem positional_ofNat (negative : Bool) (count up : Nat) :
    Unsigned (positional count (.ofNat up)) ∧
      decimal? negative (positional count (.ofNat up)) =
        some (ofDecimal negative (count * 10 ^ up) (.ofNat 0)) := by
  have nonempty : positional count (.ofNat up) ≠ [] := by
    simp [positional, Nat.toDigits_ne_nil]
  have inside : ∀ c ∈ positional count (.ofNat up), c.isDigit = true := by
    intro c hc
    rcases List.mem_append.mp hc with hc | hc
    · exact isDigit_toDigits hc
    · rw [List.eq_of_mem_replicate hc]
      decide
  refine ⟨.digits nonempty inside, ?_⟩
  rw [decimal?_whole negative nonempty inside, positional, digitsValue_append, digitsValue_toDigits,
    digitsValue_zeros]

/-- So does a decimal with a fraction. -/
theorem positional_negSucc (negative : Bool) (count down : Nat) :
    Unsigned (positional count (.negSucc down)) ∧
      decimal? negative (positional count (.negSucc down)) =
        some (ofDecimal negative count (.negSucc down)) := by
  obtain ⟨padded, hpadded⟩ : ∃ padded, padded =
      List.replicate (down + 2 - (Nat.toDigits 10 count).length) '0' ++ Nat.toDigits 10 count := ⟨_, rfl⟩
  have hlength : down + 2 ≤ padded.length := by
    rw [hpadded, List.length_append, List.length_replicate]
    omega
  have inside : ∀ c ∈ padded, c.isDigit = true := by
    intro c hc
    rw [hpadded] at hc
    rcases List.mem_append.mp hc with hc | hc
    · rw [List.eq_of_mem_replicate hc]
      decide
    · exact isDigit_toDigits hc
  have hvalue : digitsValue 0 padded = count := by
    rw [hpadded, digitsValue_append, digitsValue_zeros, Nat.zero_mul, digitsValue_toDigits]
  have htext : positional count (.negSucc down) = padded.take (padded.length - (down + 1)) ++
      '.' :: padded.drop (padded.length - (down + 1)) := by
    rw [hpadded]
    rfl
  have nonempty : padded.take (padded.length - (down + 1)) ≠ [] := by
    rw [← List.length_pos_iff, List.length_take]
    omega
  have before : ∀ c ∈ padded.take (padded.length - (down + 1)), c.isDigit = true :=
    fun c hc => inside c (List.mem_of_mem_take hc)
  have behind : ∀ c ∈ padded.drop (padded.length - (down + 1)), c.isDigit = true :=
    fun c hc => inside c (List.mem_of_mem_drop hc)
  have hfraction : (padded.drop (padded.length - (down + 1))).length = down + 1 := by
    rw [List.length_drop]
    omega
  rw [htext]
  refine ⟨.point nonempty before behind, ?_⟩
  rw [decimal?_point negative nonempty before behind hfraction, List.take_append_drop, hvalue]

/-! ### Whole numbers with their signs -/

/-- The text of a finite magnitude is that of a number, and reads as the magnitude under either sign. -/
theorem decimal?_magnitudeText (negative : Bool) (rank : Fin rankBound) :
    Unsigned (magnitudeText rank) ∧
      decimal? negative (magnitudeText rank) = some (.finite negative rank) := by
  have hofRank : ofRank negative rank = .finite negative rank := by
    rw [ofRank, dif_pos rank.isLt]
  by_cases hzero : rank.val = 0
  · have htext : magnitudeText rank = ['0'] := by rw [magnitudeText, if_pos hzero]
    have hdigit : ∀ c ∈ ['0'], c.isDigit = true := List.all_eq_true.mp (by decide)
    rw [htext, decimal?_whole negative (by simp) hdigit]
    refine ⟨.digits (by simp) hdigit, ?_⟩
    have hvalue : digitsValue 0 ['0'] = 0 := rfl
    rw [hvalue, ofDecimal_zero, ← hzero, hofRank]
  · obtain ⟨e, high, low⟩ : ∃ e, 359 ≤ e ∧ e ≤ 400 := ⟨400, by decide, by decide⟩
    have rounds := shortest_rounds rank
    rcases hshortest : shortest rank with ⟨count, power⟩
    rw [hshortest] at rounds
    simp only at rounds
    have hpos := count_pos hzero rounds
    rw [magnitudeText, if_neg hzero, hshortest]
    simp only
    cases power with
    | ofNat up =>
        obtain ⟨unsigned, hread⟩ := positional_ofNat negative count up
        refine ⟨unsigned, ?_⟩
        have hproduct : 0 < count * 10 ^ up := Nat.mul_pos hpos (Nat.pow_pos (by decide))
        rw [hread, ofDecimal_whole negative hproduct ⟨by omega, low⟩ (whole_lt (by omega) rank.isLt rounds),
          ← hofRank]
        simp only [roundsTo, gridPoint, Nat.pow_eq, beq_iff_eq] at rounds
        rw [rounds]
    | negSucc down =>
        obtain ⟨unsigned, hread⟩ := positional_negSucc negative count down
        refine ⟨unsigned, ?_⟩
        rw [hread, ofDecimal_fraction negative hpos low (fraction_lt (by omega) rank.isLt rounds)
          (le_fraction high hzero rounds), ← hofRank]
        simp only [roundsTo, gridPoint, Nat.pow_eq, beq_iff_eq] at rounds
        rw [rounds]

/-- The text of a finite number is an optional minus before the text of a number without a sign. -/
theorem chars_finite (negative : Bool) (rank : Fin rankBound) :
    (Number.finite negative rank).chars = (if negative then ['-'] else []) ++ magnitudeText rank :=
  rfl

/-- The text of a finite number reads back as it, with the sign of a zero too. -/
theorem ofText?_chars {x : Number} (finite : x.isFinite = true) : ofText? x.chars = some x := by
  cases x with
  | nan => cases finite
  | infinity _ => cases finite
  | finite negative rank =>
      obtain ⟨⟨⟨first, others, hfirst, digit⟩, -⟩, hread⟩ := decimal?_magnitudeText negative rank
      have hsign : takeSign (Number.finite negative rank).chars = (negative, magnitudeText rank) := by
        rw [chars_finite]
        cases negative with
        | true => rfl
        | false =>
            have notMinus : first ≠ '-' := by
              rintro rfl
              exact absurd digit (by decide)
            have notPlus : first ≠ '+' := by
              rintro rfl
              exact absurd digit (by decide)
            simp [hfirst, takeSign, notMinus, notPlus]
      rw [ofText?, hsign]
      simp only [hread]
      rfl

end FilterTree.Number
