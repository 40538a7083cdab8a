/-
Module: FilterTree.Proofs.Text
Layer: Proofs
Purpose: Facts about texts that the proofs about predicates share: what skipping blanks leaves, where a run of
  characters of one class ends, that a blank character never stands in a name, and how sizes in UTF-8 add up.
Imports: Mathlib, FilterTree.Text.Blank, FilterTree.Text.Word
Main exports: Text.skipBlanks_append, Text.exists_blanks, Text.takeWhile_run, Text.dropWhile_run,
  Text.isFieldChar_of_isBlank, Text.utf8Size_append, Text.utf8Size_eq
-/
import Mathlib
import FilterTree.Text.Blank
import FilterTree.Text.Word

namespace FilterTree.Text

/-! ### Blanks -/

@[simp] theorem skipBlanks_nil : skipBlanks [] = [] := rfl

/-- A character that is not blank stays at the front. -/
theorem skipBlanks_cons {c : Char} {text : List Char} (h : isBlank c = false) :
    skipBlanks (c :: text) = c :: text := by
  simp [skipBlanks, h]

/-- Blanks at the front go. -/
theorem skipBlanks_append {blanks : List Char} (h : isBlankText blanks = true) (text : List Char) :
    skipBlanks (blanks ++ text) = skipBlanks text := by
  rw [isBlankText, List.all_eq_true] at h
  exact List.dropWhile_append_of_pos h

/-- What is left begins with no blank. -/
theorem isBlank_head_skipBlanks {c : Char} {text rest : List Char} (h : skipBlanks text = c :: rest) :
    isBlank c = false := by
  induction text with
  | nil => simp at h
  | cons d text ih =>
      cases hd : isBlank d with
      | true =>
          rw [skipBlanks, List.dropWhile_cons_of_pos hd] at h
          exact ih h
      | false =>
          rw [skipBlanks_cons hd] at h
          cases h
          exact hd

/-- Skipping blanks twice is skipping them once. -/
@[simp] theorem skipBlanks_skipBlanks (text : List Char) :
    skipBlanks (skipBlanks text) = skipBlanks text := by
  cases h : skipBlanks text with
  | nil => rfl
  | cons c rest => rw [skipBlanks_cons (isBlank_head_skipBlanks h)]

/-- A text is some blanks and what skipping blanks leaves. -/
theorem exists_blanks (text : List Char) :
    ∃ blanks, isBlankText blanks = true ∧ text = blanks ++ skipBlanks text := by
  refine ⟨text.takeWhile isBlank, ?_, List.takeWhile_append_dropWhile.symm⟩
  simp [isBlankText, List.all_takeWhile]

/-- Skipping blanks leaves nothing of a blank text, and something of every other. -/
theorem skipBlanks_eq_nil_iff {text : List Char} : skipBlanks text = [] ↔ isBlankText text = true := by
  rw [skipBlanks, isBlankText, List.dropWhile_eq_nil_iff, List.all_eq_true]

/-- Skipping blanks makes no text longer. -/
theorem length_skipBlanks_le (text : List Char) : (skipBlanks text).length ≤ text.length :=
  List.length_dropWhile_le isBlank text

/-- One space is blank. -/
theorem isBlankText_space : isBlankText [' '] = true := by
  decide

/-! ### Runs of one class of characters -/

/-- No text that begins with a character of the class `p` is at hand. -/
def StopsAt (p : Char → Bool) (text : List Char) : Prop :=
  ∀ c ∈ text.head?, p c = false

/-- A run of the class is taken whole when the text behind it does not go on with it. -/
theorem takeWhile_run {p : Char → Bool} {run rest : List Char} (inside : ∀ c ∈ run, p c = true)
    (stops : StopsAt p rest) : (run ++ rest).takeWhile p = run := by
  rw [List.takeWhile_append_of_pos inside]
  cases rest with
  | nil => simp
  | cons c rest => simp [stops c (by simp)]

/-- What is left behind a run is the text behind it. -/
theorem dropWhile_run {p : Char → Bool} {run rest : List Char} (inside : ∀ c ∈ run, p c = true)
    (stops : StopsAt p rest) : (run ++ rest).dropWhile p = rest := by
  rw [List.dropWhile_append_of_pos inside]
  cases rest with
  | nil => rfl
  | cons c rest => simp [stops c (by simp)]

/-! ### Blanks and names

The tables of blanks and of letters and numbers have no range in common.
-/

/-- The ranges of two tables lie apart. -/
def rangesApart (xs ys : List (Nat × Nat)) : Bool :=
  xs.all fun x => ys.all fun y => decide (x.2 < y.1) || decide (y.2 < x.1)

theorem within_of_rangesApart {xs ys : List (Nat × Nat)} (h : rangesApart xs ys = true) {c : Char}
    (hx : within xs c = true) : within ys c = false := by
  simp only [rangesApart, List.all_eq_true, Bool.or_eq_true, decide_eq_true_eq] at h
  simp only [within, List.any_eq_true, Bool.and_eq_true, decide_eq_true_eq] at hx
  obtain ⟨x, hxs, hlow, hhigh⟩ := hx
  rw [within, List.any_eq_false]
  intro y hys
  have := h x hxs y hys
  simp only [Bool.and_eq_true, decide_eq_true_eq]
  omega

/-- The letters and digits of ASCII, as ranges. -/
theorem within_of_isAlphanum {c : Char} (h : c.isAlphanum = true) :
    within [(48, 57), (65, 90), (97, 122)] c = true := by
  simp only [Char.isAlphanum, Char.isAlpha, Char.isUpper, Char.isLower, Char.isDigit, Bool.or_eq_true,
    Bool.and_eq_true, decide_eq_true_eq, ge_iff_le, UInt32.le_iff_toNat_le] at h
  simp only [within, List.any_cons, List.any_nil, Bool.or_eq_true, Bool.and_eq_true, decide_eq_true_eq,
    Char.toNat]
  simp at h ⊢
  omega

/-- A blank stands in no name. -/
theorem isFieldChar_of_isBlank {c : Char} (h : isBlank c = true) : isFieldChar c = false := by
  have letters : c.isAlphanum = false := by
    rw [Bool.eq_false_iff]
    intro hc
    have apart : rangesApart blankRanges [(48, 57), (65, 90), (97, 122)] = true := by decide
    have outside := within_of_rangesApart apart h
    rw [within_of_isAlphanum hc] at outside
    contradiction
  have apart : rangesApart blankRanges wordRanges = true := by decide +kernel
  have others : within wordRanges c = false := within_of_rangesApart apart h
  have marks : c ≠ '_' ∧ c ≠ '$' := by
    constructor <;> rintro rfl <;> exact absurd h (by decide)
  simp [isFieldChar, isNameChar, isAlphanumeric, letters, others, marks]

/-! ### Cuts -/

/-- Without the separator there is one part. -/
theorem splitOn_none {separator : Char} {text : List Char} (h : separator ∉ text) :
    splitOn separator text = [text] := by
  induction text with
  | nil => rfl
  | cons c text ih =>
      rw [List.mem_cons, not_or] at h
      rw [splitOn, if_neg (Ne.symm h.1), ih h.2]

/-- The text in front of the first separator is the first part. -/
theorem splitOn_append {separator : Char} {part : List Char} (h : separator ∉ part) (rest : List Char) :
    splitOn separator (part ++ separator :: rest) = part :: splitOn separator rest := by
  induction part with
  | nil => rw [List.nil_append, splitOn, if_pos rfl]
  | cons c part ih =>
      rw [List.mem_cons, not_or] at h
      rw [List.cons_append, splitOn, if_neg (Ne.symm h.1), ih h.2]

/-! ### Sizes -/

/-- The sizes of two texts one behind the other add up. -/
theorem utf8Size_append (first second : List Char) :
    utf8Size (first ++ second) = utf8Size first + utf8Size second := by
  induction first with
  | nil => exact (Nat.zero_add _).symm
  | cons c first ih => rw [List.cons_append, utf8Size, utf8Size, ih, Nat.add_assoc]

/-- The size of a text is the number of bytes that its string takes. -/
theorem utf8Size_eq (text : List Char) : utf8Size text = (String.ofList text).utf8ByteSize := by
  induction text with
  | nil => simp [utf8Size]
  | cons c text ih =>
      rw [← List.singleton_append, String.ofList_append, String.utf8ByteSize_append, ← String.singleton_eq_ofList,
        String.utf8ByteSize_singleton, ← ih]
      rfl

end FilterTree.Text
