/-
Module: FilterTree.Proofs.Text.Cuts
Layer: Proofs
Purpose: What cutting a text leaves, said without the cutting. The front of a text ends where a mark first stands, a
  trimmed text has blanks around it and none at its ends, and the parts between separators hold none of them and
  give the text again. What is solid at both ends keeps its place in a text that is trimmed, and the rest is
  trimmed around it.
Imports: FilterTree.Proofs.Text
Main exports: Text.IsFront, Text.takeWhile_eq_iff, Text.IsTrimmed, Text.trim_eq_iff, Text.trim_around,
  Text.splitOn_eq_cons, Text.splitOn_eq_three_iff
-/
import FilterTree.Proofs.Text

namespace FilterTree.Text

/-! ### The front of a text -/

/-- What stands in a text before the first mark; all of it when there is none. -/
def IsFront (mark : Char) (text front : List Char) : Prop :=
  mark ∉ front ∧ (text = front ∨ ∃ behind, text = front ++ mark :: behind)

theorem takeWhile_eq_iff {mark : Char} {text front : List Char} :
    text.takeWhile (· != mark) = front ↔ IsFront mark text front := by
  constructor
  · rintro rfl
    refine ⟨fun hmem => by simpa using List.mem_takeWhile_imp hmem, ?_⟩
    have parts := (List.takeWhile_append_dropWhile (p := (· != mark)) (l := text)).symm
    cases hbehind : text.dropWhile (· != mark) with
    | nil =>
        rw [hbehind, List.append_nil] at parts
        exact .inl parts
    | cons c behind =>
        have isMark : c = mark := by
          have stopped := List.head_dropWhile_not (p := (· != mark)) (l := text) (by simp [hbehind])
          simpa [hbehind] using stopped
        rw [hbehind, isMark] at parts
        exact .inr ⟨behind, parts⟩
  · rintro ⟨fresh, whole⟩
    have inside : ∀ c ∈ front, (c != mark) = true := by
      intro c hmem
      rw [bne_iff_ne]
      rintro rfl
      exact fresh hmem
    rcases whole with rfl | ⟨behind, rfl⟩
    · exact List.takeWhile_eq_self_iff.mpr inside
    · exact takeWhile_run inside (by simp [StopsAt])

/-! ### Trimmed texts -/

/-- A text with blanks around it or not, and none at its own ends. -/
def IsTrimmed (text core : List Char) : Prop :=
  StopsAt isBlank core ∧ StopsAt isBlank core.reverse ∧
    ∃ before after, text = before ++ (core ++ after) ∧ isBlankText before = true ∧ isBlankText after = true

/-- Skipping leaves a text that begins with no blank. -/
theorem stopsAt_skipBlanks (text : List Char) : StopsAt isBlank (skipBlanks text) := by
  intro c hc
  cases hskip : skipBlanks text with
  | nil => simp [hskip] at hc
  | cons d rest =>
      rw [hskip, List.head?_cons, Option.mem_some_iff] at hc
      rw [← hc]
      exact isBlank_head_skipBlanks hskip

/-- A text that begins with no blank stays as it is. -/
theorem skipBlanks_of_stopsAt {text : List Char} (solid : StopsAt isBlank text) : skipBlanks text = text := by
  cases text with
  | nil => rfl
  | cons c rest => exact skipBlanks_cons (solid c rfl)

/-- Blanks are skipped in front of what is solid, and nothing of it is. -/
theorem skipBlanks_append_solid (front : List Char) {text : List Char} (solid : StopsAt isBlank text) :
    skipBlanks (front ++ text) = skipBlanks front ++ text := by
  obtain ⟨blanks, blank, hfront⟩ := exists_blanks front
  rw [hfront, List.append_assoc, skipBlanks_append blank, ← hfront]
  cases hskip : skipBlanks front with
  | nil => rw [List.nil_append, skipBlanks_of_stopsAt solid]
  | cons c rest => exact skipBlanks_cons (isBlank_head_skipBlanks hskip)

/-- A piece that is solid at both ends keeps its place, and what is around it is trimmed. -/
theorem trim_around {piece : List Char} (nonempty : piece ≠ []) (first : StopsAt isBlank piece)
    (last : StopsAt isBlank piece.reverse) (front behind : List Char) :
    trim (front ++ (piece ++ behind)) =
      skipBlanks front ++ (piece ++ (skipBlanks behind.reverse).reverse) := by
  have begins : StopsAt isBlank (piece ++ behind) := by
    intro c hc
    rw [List.head?_append_of_ne_nil _ nonempty] at hc
    exact first c hc
  have ends : StopsAt isBlank (piece.reverse ++ (skipBlanks front).reverse) := by
    intro c hc
    rw [List.head?_append_of_ne_nil _ (by simpa using nonempty)] at hc
    exact last c hc
  rw [trim, skipBlanks_append_solid front begins, List.reverse_append, List.reverse_append, List.append_assoc,
    skipBlanks_append_solid _ ends]
  simp

theorem trim_eq_iff {text core : List Char} : trim text = core ↔ IsTrimmed text core := by
  constructor
  · rintro rfl
    obtain ⟨before, blankBefore, htext⟩ := exists_blanks text
    obtain ⟨after, blankAfter, hskip⟩ := exists_blanks (skipBlanks text).reverse
    have split : skipBlanks text = trim text ++ after.reverse := by
      rw [trim, ← List.reverse_append, ← hskip, List.reverse_reverse]
    refine ⟨fun c hc => ?_, ?_, before, after.reverse, ?_, blankBefore, ?_⟩
    · refine stopsAt_skipBlanks text c ?_
      rw [split, Option.mem_def, List.head?_append, Option.mem_def.mp hc, Option.some_or]
    · rw [trim, List.reverse_reverse]
      exact stopsAt_skipBlanks _
    · rw [← split]
      exact htext
    · simpa [isBlankText] using blankAfter
  · rintro ⟨first, last, before, after, rfl, blankBefore, blankAfter⟩
    have noneBefore : skipBlanks before = [] := skipBlanks_eq_nil_iff.mpr blankBefore
    have noneAfter : skipBlanks after.reverse = [] :=
      skipBlanks_eq_nil_iff.mpr (by simpa [isBlankText] using blankAfter)
    cases core with
    | nil =>
        have blank : skipBlanks (before ++ ([] ++ after)) = [] := by
          rw [skipBlanks_append blankBefore, List.nil_append, skipBlanks_eq_nil_iff.mpr blankAfter]
        rw [trim, blank]
        rfl
    | cons c core => rw [trim_around (List.cons_ne_nil c core) first last, noneBefore, noneAfter]; simp

/-! ### Parts between separators -/

theorem splitOn_ne_nil (separator : Char) (text : List Char) : splitOn separator text ≠ [] := by
  cases text with
  | nil => exact List.cons_ne_nil _ _
  | cons c text =>
      rw [splitOn]
      split
      · exact List.cons_ne_nil _ _
      · split <;> exact List.cons_ne_nil _ _

/-- What has no separator goes in front of the first part. -/
theorem splitOn_prepend {separator : Char} {piece text first : List Char} {rest : List (List Char)}
    (fresh : separator ∉ piece) (parts : splitOn separator text = first :: rest) :
    splitOn separator (piece ++ text) = (piece ++ first) :: rest := by
  induction piece with
  | nil => exact parts
  | cons c piece ih =>
      rw [List.mem_cons, not_or] at fresh
      rw [List.cons_append, splitOn, if_neg (Ne.symm fresh.1), ih fresh.2, List.cons_append]

/-- The first part holds no separator. Either it is the whole text, or a separator stands behind it and the other
    parts behind that. -/
theorem splitOn_eq_cons {separator : Char} {text part : List Char} {rest : List (List Char)}
    (parts : splitOn separator text = part :: rest) :
    separator ∉ part ∧ ((text = part ∧ rest = []) ∨
      ∃ behind, text = part ++ separator :: behind ∧ splitOn separator behind = rest) := by
  induction text generalizing part rest with
  | nil =>
      cases parts
      exact ⟨List.not_mem_nil, .inl ⟨rfl, rfl⟩⟩
  | cons c text ih =>
      rw [splitOn] at parts
      split at parts
      case isTrue isSeparator =>
        cases parts
        exact ⟨List.not_mem_nil, .inr ⟨text, by rw [isSeparator, List.nil_append], rfl⟩⟩
      case isFalse other =>
        cases hparts : splitOn separator text with
        | nil => exact absurd hparts (splitOn_ne_nil separator text)
        | cons first others =>
            rw [hparts] at parts
            cases parts
            obtain ⟨fresh, whole⟩ := ih hparts
            refine ⟨?_, ?_⟩
            · rw [List.mem_cons, not_or]
              exact ⟨Ne.symm other, fresh⟩
            · rcases whole with ⟨rfl, rfl⟩ | ⟨behind, rfl, hrest⟩
              · exact .inl ⟨rfl, rfl⟩
              · exact .inr ⟨behind, rfl, hrest⟩

/-- Three parts are what stands around two separators. -/
theorem splitOn_eq_three_iff {separator : Char} {text first second third : List Char} :
    splitOn separator text = [first, second, third] ↔
      text = first ++ separator :: (second ++ separator :: third) ∧
        separator ∉ first ∧ separator ∉ second ∧ separator ∉ third := by
  constructor
  · intro three
    obtain ⟨freshFirst, ⟨-, none⟩ | ⟨behind, htext, two⟩⟩ := splitOn_eq_cons three
    · cases none
    obtain ⟨freshSecond, ⟨-, none⟩ | ⟨last, hbehind, one⟩⟩ := splitOn_eq_cons two
    · cases none
    obtain ⟨freshThird, ⟨hlast, -⟩ | ⟨more, -, none⟩⟩ := splitOn_eq_cons one
    · rw [htext, hbehind, hlast]
      exact ⟨rfl, freshFirst, freshSecond, freshThird⟩
    · exact absurd none (splitOn_ne_nil separator more)
  · rintro ⟨rfl, freshFirst, freshSecond, freshThird⟩
    rw [splitOn_append freshFirst, splitOn_append freshSecond, splitOn_none freshThird]

end FilterTree.Text
