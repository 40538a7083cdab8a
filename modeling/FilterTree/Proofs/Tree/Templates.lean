/-
Module: FilterTree.Proofs.Tree.Templates
Layer: Proofs
Purpose: Templates as texts. A comparison fills the parts of its operator's template one by one; the same text comes
  of the template as one text, with every place in it replaced at once. Two ways to replace places are defined:
  going over the template from left to right, and cutting it at the places of the field, replacing the places of
  the value in the pieces and joining the pieces with the field. Both write what is not a place as it is and put
  a text in for each place, and never look at what was put in, so they agree on every template whose fixed parts
  open no place; the templates of all operators are of this kind.
Imports: FilterTree.Predicate.Text, FilterTree.Proofs.Grammar.Completeness
Main exports: Text.cutAt, Text.replaceAll, Piece.substitute, Piece.cutAndJoin, Piece.Fills, Operator.fixed_opens_none,
  Comparison.predicate_substituted
-/
import FilterTree.Predicate.Text
import FilterTree.Proofs.Grammar.Completeness

namespace FilterTree

/-! ### Replacing in texts -/

namespace Text

/-- The pieces of a text between the occurrences of a part, which are found from left to right. -/
def cutAt (part : List Char) : List Char → List (List Char)
  | [] => [[]]
  | c :: rest =>
    if startsWith (c :: rest) part then [] :: cutAt part (rest.drop (part.length - 1))
    else (cutAt part rest).modifyHead (c :: ·)
termination_by text => text.length
decreasing_by all_goals simp only [List.length_cons, List.length_drop]; omega

/-- A text with another part in the place of every occurrence of a part. -/
def replaceAll (part other text : List Char) : List Char :=
  other.intercalate (cutAt part text)

theorem startsWith_append (part rest : List Char) : startsWith (part ++ rest) part = true := by
  rw [startsWith, Predicate.stripPrefix?_append, Option.isSome_some]

/-- A text begins with no part that begins with another character. -/
theorem startsWith_cons_of_ne {c first : Char} (h : c ≠ first) (rest part : List Char) :
    startsWith (c :: rest) (first :: part) = false := by
  rw [startsWith, stripPrefix?, if_neg (Ne.symm h), Option.isSome_none]

theorem cutAt_ne_nil (part text : List Char) : cutAt part text ≠ [] := by
  fun_induction cutAt part text with
  | case1 => simp
  | case2 => simp
  | case3 c rest _ ih => cases h : cutAt part rest <;> simp_all

/-- An occurrence in front begins a new piece. -/
theorem cutAt_append (first : Char) (part rest : List Char) :
    cutAt (first :: part) (first :: part ++ rest) = [] :: cutAt (first :: part) rest := by
  rw [List.cons_append, cutAt, ← List.cons_append, if_pos (startsWith_append _ rest)]
  simp

/-- What opens no occurrence belongs to the first piece. -/
theorem cutAt_plain {first : Char} {front : List Char} (plain : first ∉ front) (part rest : List Char) :
    cutAt (first :: part) (front ++ rest) = (cutAt (first :: part) rest).modifyHead (front ++ ·) := by
  induction front with
  | nil =>
      rw [List.nil_append]
      cases cutAt (first :: part) rest <;> rfl
  | cons c front ih =>
      rw [List.mem_cons, not_or] at plain
      rw [List.cons_append, cutAt, startsWith_cons_of_ne (Ne.symm plain.1), ih plain.2]
      cases cutAt (first :: part) rest <;> rfl

/-- What stands in front of the first piece stands in front of the joined text. -/
theorem intercalate_modifyHead {parts : List (List Char)} (nonempty : parts ≠ []) (between front : List Char) :
    between.intercalate (parts.modifyHead (front ++ ·)) = front ++ between.intercalate parts := by
  match parts with
  | [] => exact absurd rfl nonempty
  | [part] => simp
  | part :: next :: parts => simp

/-- What is done to every piece may be done to the front of the first piece by itself. -/
theorem map_modifyHead {change : List Char → List Char} {front changed : List Char}
    (h : ∀ part, change (front ++ part) = changed ++ change part) (parts : List (List Char)) :
    (parts.modifyHead (front ++ ·)).map change = (parts.map change).modifyHead (changed ++ ·) := by
  cases parts with
  | nil => rfl
  | cons part parts => simp [h]

/-- An empty piece in front leaves a joint there. -/
theorem intercalate_nil_cons {parts : List (List Char)} (nonempty : parts ≠ []) (between : List Char) :
    between.intercalate ([] :: parts) = between ++ between.intercalate parts := by
  match parts with
  | [] => exact absurd rfl nonempty
  | part :: parts => simp

theorem replaceAll_nil (part other : List Char) : replaceAll part other [] = [] := by
  rw [replaceAll, cutAt]
  simp

/-- Replacing begins with the occurrence in front. -/
theorem replaceAll_append (first : Char) (part other rest : List Char) :
    replaceAll (first :: part) other (first :: part ++ rest) = other ++ replaceAll (first :: part) other rest := by
  rw [replaceAll, cutAt_append, intercalate_nil_cons (cutAt_ne_nil _ rest), replaceAll]

/-- What opens no occurrence stays. -/
theorem replaceAll_plain {first : Char} {front : List Char} (plain : first ∉ front) (part other rest : List Char) :
    replaceAll (first :: part) other (front ++ rest) = front ++ replaceAll (first :: part) other rest := by
  rw [replaceAll, cutAt_plain plain, intercalate_modifyHead (cutAt_ne_nil _ rest), replaceAll]

end Text

/-! ### Filling a template -/

namespace Piece

open Text (startsWith cutAt replaceAll)

/-- The place of the field in a template. -/
def fieldPlace : List Char := Piece.field.spelling.toList

/-- The place of the value in a template. -/
def valuePlace : List Char := Piece.value.spelling.toList

theorem fieldPlace_eq : fieldPlace = '\x7b' :: ['f', 'i', 'e', 'l', 'd', '\x7d'] := rfl

theorem valuePlace_eq : valuePlace = '\x7b' :: ['v', 'a', 'l', 'u', 'e', '\x7d'] := rfl

/-- Fills all the places of a template in one go from left to right. Behind a place the template is read on; what
    was put in is not. -/
def substitute (field value : List Char) : List Char → List Char
  | [] => []
  | c :: rest =>
    if startsWith (c :: rest) fieldPlace then field ++ substitute field value (rest.drop (fieldPlace.length - 1))
    else if startsWith (c :: rest) valuePlace then
      value ++ substitute field value (rest.drop (valuePlace.length - 1))
    else c :: substitute field value rest
termination_by template => template.length
decreasing_by all_goals simp only [List.length_cons, List.length_drop]; omega

/-- Fills a template by pieces: it is cut at the places of the field, the places of the value are replaced in each
    piece, and the field joins the pieces. -/
def cutAndJoin (field value template : List Char) : List Char :=
  field.intercalate ((cutAt fieldPlace template).map (replaceAll valuePlace value))

/-- A way to fill templates that puts the two texts in for their places, keeps what opens no place, and goes on
    behind either with the rest of the template alone. -/
structure Fills (field value : List Char) (fill : List Char → List Char) : Prop where
  ends : fill [] = []
  keeps : ∀ {front : List Char} (rest : List Char), '\x7b' ∉ front → fill (front ++ rest) = front ++ fill rest
  putsField : ∀ rest : List Char, fill (fieldPlace ++ rest) = field ++ fill rest
  putsValue : ∀ rest : List Char, fill (valuePlace ++ rest) = value ++ fill rest

variable {field value : List Char}

/-- Every such way fills a template part by part. -/
theorem Fills.parts {fill : List Char → List Char} (fills : Fills field value fill) {pieces : List Piece}
    (plain : ∀ text, fixed text ∈ pieces → '\x7b' ∉ text.toList) :
    fill (pieces.flatMap fun piece => piece.spelling.toList) = pieces.flatMap (Piece.fill field value) := by
  induction pieces with
  | nil => exact fills.ends
  | cons piece pieces ih =>
      have others := ih fun text mem => plain text (List.mem_cons_of_mem piece mem)
      rw [List.flatMap_cons, List.flatMap_cons, ← others]
      cases piece with
      | fixed text => exact fills.keeps _ (plain text List.mem_cons_self)
      | field => exact fills.putsField _
      | value => exact fills.putsValue _

theorem substitute_plain {front : List Char} (plain : '\x7b' ∉ front) (rest : List Char) :
    substitute field value (front ++ rest) = front ++ substitute field value rest := by
  induction front with
  | nil => rfl
  | cons c front ih =>
      rw [List.mem_cons, not_or] at plain
      have noField : startsWith (c :: (front ++ rest)) fieldPlace = false :=
        Text.startsWith_cons_of_ne (Ne.symm plain.1) _ _
      have noValue : startsWith (c :: (front ++ rest)) valuePlace = false :=
        Text.startsWith_cons_of_ne (Ne.symm plain.1) _ _
      rw [List.cons_append, substitute, noField, noValue, List.cons_append, ← ih plain.2]
      rfl

/-- Going over a template fills it. -/
theorem substitute_fills (field value : List Char) : Fills field value (substitute field value) where
  ends := by rw [substitute]
  keeps rest plain := substitute_plain plain rest
  putsField rest := by
    rw [fieldPlace_eq, List.cons_append, substitute, ← List.cons_append, ← fieldPlace_eq,
      if_pos (Text.startsWith_append fieldPlace rest)]
    rfl
  putsValue rest := by
    have noField : startsWith (valuePlace ++ rest) fieldPlace = false := rfl
    rw [valuePlace_eq, List.cons_append, substitute, ← List.cons_append, ← valuePlace_eq, noField,
      if_pos (Text.startsWith_append valuePlace rest)]
    rfl

/-- The place of a value in front belongs to the first of the pieces between the places of the field. -/
theorem cutAt_valuePlace (rest : List Char) :
    cutAt fieldPlace (valuePlace ++ rest) = (cutAt fieldPlace rest).modifyHead (valuePlace ++ ·) := by
  have noField : startsWith (valuePlace ++ rest) fieldPlace = false := rfl
  rw [valuePlace_eq, List.cons_append] at noField
  rw [valuePlace_eq, List.cons_append, cutAt, noField, fieldPlace_eq, Text.cutAt_plain (by decide)]
  cases cutAt _ rest <;> rfl

/-- Cutting and joining fills a template. -/
theorem cutAndJoin_fills (field value : List Char) : Fills field value (cutAndJoin field value) where
  ends := by
    rw [cutAndJoin, cutAt, List.map_singleton, Text.replaceAll_nil]
    simp
  keeps rest plain := by
    have kept := fun part => Text.replaceAll_plain plain ['v', 'a', 'l', 'u', 'e', '\x7d'] value part
    rw [cutAndJoin, fieldPlace_eq, Text.cutAt_plain plain, valuePlace_eq, Text.map_modifyHead kept,
      Text.intercalate_modifyHead (by simp [Text.cutAt_ne_nil])]
    rfl
  putsField rest := by
    rw [cutAndJoin, fieldPlace_eq, Text.cutAt_append, List.map_cons, Text.replaceAll_nil,
      Text.intercalate_nil_cons (by simp [Text.cutAt_ne_nil])]
    rfl
  putsValue rest := by
    have put := fun part => Text.replaceAll_append '\x7b' ['v', 'a', 'l', 'u', 'e', '\x7d'] value part
    rw [← valuePlace_eq] at put
    rw [cutAndJoin, cutAt_valuePlace, Text.map_modifyHead put,
      Text.intercalate_modifyHead (by simp [Text.cutAt_ne_nil])]
    rfl

end Piece

/-! ### Templates of operators -/

/-- No fixed part of a template opens a place. -/
theorem Operator.fixed_opens_none (operator : Operator) {text : String} (mem : .fixed text ∈ operator.pieces) :
    '\x7b' ∉ text.toList := by
  have noneOpens : ∀ piece ∈ operator.pieces, piece ≠ .field → piece ≠ .value →
      '\x7b' ∉ piece.spelling.toList := by
    cases operator <;> decide
  exact noneOpens _ mem (by simp) (by simp)

/-- The template of an operator is made up of its parts, one behind the other. -/
theorem Operator.template_toList (operator : Operator) :
    operator.template.toList = operator.pieces.flatMap fun piece => piece.spelling.toList := by
  rw [template, String.toList_join, List.flatMap_map]

/-- The predicate text of a comparison is its operator's template with every place replaced at once, the field and
    the literal of the value being put in as they are, whatever they look like. Cutting the template at the
    places of the field, replacing those of the value in the pieces and joining the pieces with the field comes to
    the same. -/
theorem Comparison.predicate_substituted (comparison : Comparison) :
    comparison.predicate =
        Piece.substitute comparison.field.toList comparison.value.literal comparison.operator.template.toList ∧
      comparison.predicate =
        Piece.cutAndJoin comparison.field.toList comparison.value.literal comparison.operator.template.toList := by
  have plain := fun text (mem : Piece.fixed text ∈ comparison.operator.pieces) =>
    comparison.operator.fixed_opens_none mem
  rw [comparison.operator.template_toList]
  exact ⟨((Piece.substitute_fills _ _).parts plain).symm, ((Piece.cutAndJoin_fills _ _).parts plain).symm⟩

/-- Texts that look like places are put in like any others. -/
example : Comparison.predicate ⟨"\x7bvalue\x7d", .equals, .text "\x7bfield\x7d"⟩ =
    "record?.\x7bvalue\x7d == '\x7bfield\x7d'".toList := by
  decide

end FilterTree
