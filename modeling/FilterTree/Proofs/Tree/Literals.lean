/-
Module: FilterTree.Proofs.Tree.Literals
Layer: Proofs
Purpose: Literals of texts, written and read. Escaping puts a backslash before every backslash and every single
  quote, which is the same as replacing first the backslashes and then the quotes. A literal is read up to its
  own closing quote whatever stands behind it, and never before: a literal that is cut off has no end. So two
  literals in front of two texts are the same only where both the values and the texts are.
Imports: FilterTree.Proofs.Tree.Comparisons
Main exports: Text.replaceChar, Text.escape_eq_replaceChar, unquote?_append, primary_literal, literal_read_back
-/
import FilterTree.Proofs.Tree.Comparisons

namespace FilterTree

/-! ### Escapes as replacements -/

namespace Text

/-- A text with a piece in the place of every occurrence of a character. -/
def replaceChar (c : Char) (piece text : List Char) : List Char :=
  text.flatMap fun other => if other = c then piece else [other]

theorem replaceChar_cons (c other : Char) (piece text : List Char) :
    replaceChar c piece (other :: text) = (if other = c then piece else [other]) ++ replaceChar c piece text :=
  List.flatMap_cons

/-- Escaping replaces the backslashes and then the quotes. The other way round, the backslashes that escape quotes
    would be escaped again. -/
theorem escape_eq_replaceChar (text : List Char) :
    escape text = replaceChar '\'' ['\\', '\''] (replaceChar '\\' ['\\', '\\'] text) := by
  induction text with
  | nil => rfl
  | cons c text ih =>
      rw [escape, ih, replaceChar_cons]
      by_cases backslash : c = '\\'
      · subst backslash
        rfl
      · by_cases mark : c = '\''
        · subst mark
          rfl
        · rw [if_neg backslash, List.singleton_append, replaceChar_cons, if_neg mark]
          simp [backslash, mark]

example : replaceChar '\\' ['\\', '\\'] (replaceChar '\'' ['\\', '\''] ['\'']) = ['\\', '\\', '\''] := by decide

end Text

namespace Predicate

/-! ### Where a literal ends -/

/-- What a literal is read as does not depend on what stands behind it. -/
theorem unquote?_append {mark : Char} (notBackslash : '\\' ≠ mark) {text value rest : List Char}
    (h : Text.unquote? mark text = some (value, rest)) (more : List Char) :
    Text.unquote? mark (text ++ more) = some (value, rest ++ more) := by
  obtain ⟨inside, rfl, enclosed⟩ := enclosed_of_unquote? h
  rw [List.append_assoc, List.cons_append, unquote?_enclosed enclosed notBackslash]

/-- A literal that is cut off before its closing mark has no end. -/
theorem unquote?_of_cut {mark : Char} (notBackslash : '\\' ≠ mark) {inside value front back : List Char}
    (enclosed : Enclosed mark inside value) (cut : inside ++ [mark] = front ++ back) (missing : back ≠ []) :
    Text.unquote? mark front = none := by
  cases hread : Text.unquote? mark front with
  | none => rfl
  | some pair =>
      obtain ⟨early, left⟩ := pair
      have whole := unquote?_enclosed enclosed notBackslash []
      rw [cut, unquote?_append notBackslash hread back] at whole
      obtain ⟨-, hback⟩ := List.append_eq_nil_iff.mp (congrArg Prod.snd (Option.some.inj whole))
      exact absurd hback missing

variable (bound : Nat) (inner : Parser)

/-- A literal in front of a text is read as its value, and the text is left. -/
theorem primary_literal (value : String) (rest : List Char) :
    primary bound inner ((Scalar.text value).literal ++ rest) = .ok (.literal (.text value), rest) := by
  have closed : Text.quote value.toList ++ rest = '\'' :: (Text.escape value.toList ++ '\'' :: rest) := by
    simp [Text.quote]
  have read := literal_enclosed (.inl rfl) (enclosed_escape value.toList) rest
  rw [String.ofList_toList] at read
  rw [Scalar.literal, closed]
  exact read

/-- The front of a literal is refused as one that is not closed. -/
theorem primary_of_cut {value : String} {front back : List Char}
    (cut : (Scalar.text value).literal = front ++ back) (begun : front ≠ []) (missing : back ≠ []) :
    primary bound inner front = .error (.at .openLiteral []) := by
  cases front with
  | nil => exact absurd rfl begun
  | cons mark front =>
      rw [Scalar.literal, Text.quote, List.cons_append, List.cons_append, List.cons.injEq] at cut
      obtain ⟨rfl, cut⟩ := cut
      have noEnd := unquote?_of_cut (by decide) (enclosed_escape value.toList) cut missing
      show literal '\'' front = _
      rw [literal, noEnd]

/-- Quoting is undone by reading. Every text is written between single quotes, with its backslashes and then its
    quotes replaced; in front of any text that is read as the value, and the text is left as it was. A literal
    has no end but its own, and it neither loses a part of the value to what stands behind it nor takes
    anything from there: only the same value in front of the same text is written like this. -/
theorem literal_read_back (value : String) (rest : List Char) :
    (Scalar.text value).literal =
        '\'' :: (Text.replaceChar '\'' ['\\', '\''] (Text.replaceChar '\\' ['\\', '\\'] value.toList) ++ ['\'']) ∧
      primary bound inner ((Scalar.text value).literal ++ rest) = .ok (.literal (.text value), rest) ∧
      (∀ front back, (Scalar.text value).literal = front ++ back → front ≠ [] → back ≠ [] →
        primary bound inner front = .error (.at .openLiteral [])) ∧
      ∀ (other : String) (after : List Char),
        (Scalar.text value).literal ++ rest = (Scalar.text other).literal ++ after → value = other ∧ rest = after := by
  refine ⟨?_, primary_literal bound inner value rest,
    fun front back cut begun missing => primary_of_cut bound inner cut begun missing, ?_⟩
  · rw [Scalar.literal, Text.quote, Text.escape_eq_replaceChar, List.cons_append]
  · intro other after same
    have read := primary_literal bound inner value rest
    rw [same, primary_literal bound inner other after] at read
    cases read
    exact ⟨rfl, rfl⟩

end Predicate

end FilterTree
