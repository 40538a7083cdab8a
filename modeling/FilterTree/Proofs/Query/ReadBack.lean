/-
Module: FilterTree.Proofs.Query.ReadBack
Layer: Proofs
Purpose: Reading the filter text of a remote query. A field and a value without marks and signs are runs that
  the symbol between them separates, and the marks around a comparison end its value. So the text tells the
  shape of the tree: its groups and connectives, and of each comparison the plain field, the symbol and the
  bare value.
Imports: FilterTree.Proofs.Text, FilterTree.Proofs.Tree.Shape, FilterTree.Query.Envelope
Main exports: Query.Condition, Comparison.Plain, Query.read, Query.WellLaid.read_writeShapes,
  Query.filterText_eq_iff
-/
import FilterTree.Proofs.Text
import FilterTree.Proofs.Tree.Shape
import FilterTree.Query.Envelope

namespace FilterTree

open Text (StopsAt)

namespace Query

/-! ### Conditions -/

/-- The marks around conditions. -/
def marks : List Char := [',', '|', '(', ')']

/-- The characters of the symbols of operators. -/
def signs : List Char := ['=', '!', '<', '>', '*', '^', '$']

/-- What a remote query tells of a comparison. -/
structure Condition where
  field : List Char
  symbol : List Char
  value : List Char
deriving DecidableEq, Repr

/-- The condition of a comparison. -/
def Condition.ofComparison (comparison : Comparison) : Condition :=
  ⟨comparison.plainField, comparison.operator.symbol.toList, comparison.value.chars⟩

/-- The text of a condition. -/
def Condition.chars (condition : Condition) : List Char :=
  condition.field ++ (condition.symbol ++ condition.value)

end Query

/-- A comparison that a remote query can tell: something is left of the field without the marks of optional
    steps, and neither that nor the bare value has a mark or a sign in it. -/
structure Comparison.Plain (comparison : Comparison) : Prop where
  filled : comparison.plainField ≠ []
  field : ∀ c ∈ comparison.plainField, c ∉ Query.marks ++ Query.signs
  value : ∀ c ∈ comparison.value.chars, c ∉ Query.marks ++ Query.signs

namespace Query

/-- Whether a character may stand in a field or in a value. -/
def isFree (c : Char) : Bool :=
  !(marks ++ signs).contains c

/-- Whether a character stands in symbols. -/
def isSign (c : Char) : Bool :=
  signs.contains c

/-- Nothing, or a mark. -/
def Delimited (text : List Char) : Prop :=
  StopsAt (fun c => !marks.contains c) text

/-- The runs of a condition can be told apart. -/
structure Condition.Plain (condition : Condition) : Prop where
  filled : condition.field ≠ []
  field : ∀ c ∈ condition.field, isFree c = true
  marked : condition.symbol ≠ []
  symbol : ∀ c ∈ condition.symbol, isSign c = true
  value : ∀ c ∈ condition.value, isFree c = true

/-- The text of a plain condition begins with a free character. -/
theorem Condition.Plain.exists_free {condition : Condition} (plain : condition.Plain) :
    ∃ c more, condition.chars = c :: more ∧ isFree c = true := by
  obtain ⟨c, more, hfield⟩ := List.exists_cons_of_ne_nil plain.filled
  refine ⟨c, more ++ (condition.symbol ++ condition.value), ?_, plain.field c (by simp [hfield])⟩
  rw [Condition.chars, hfield, List.cons_append]

/-- Every symbol is one or more signs. -/
theorem symbol_signs (operator : Operator) :
    operator.symbol.toList ≠ [] ∧ ∀ c ∈ operator.symbol.toList, isSign c = true := by
  cases operator <;> simp [Operator.symbol, Operator.check, Check.symbol, Relation.symbol, isSign, signs]

/-- The condition of a plain comparison is plain. -/
theorem plain_ofComparison {comparison : Comparison} (plain : comparison.Plain) :
    (Condition.ofComparison comparison).Plain := by
  have free : ∀ {c : Char}, c ∉ marks ++ signs → isFree c = true := by
    intro c hc
    rw [isFree, Bool.not_eq_true', ← Bool.not_eq_true, List.contains_iff_mem]
    exact hc
  obtain ⟨marked, signed⟩ := symbol_signs comparison.operator
  exact ⟨plain.filled, fun c hc => free (plain.field c hc), marked, signed, fun c hc => free (plain.value c hc)⟩

/-- The text of a plain comparison is that of its condition. -/
theorem condition_chars {comparison : Comparison} (plain : comparison.Plain) :
    comparison.condition = (Condition.ofComparison comparison).chars := by
  have filled : comparison.field.isEmpty = false := by
    rw [Bool.eq_false_iff, ne_eq, String.isEmpty_iff]
    intro empty
    apply plain.filled
    rw [Comparison.plainField, empty]
    rfl
  rw [Comparison.condition, filled]
  rfl

/-! ### Reading -/

/-- Takes a condition off the front of a text. -/
def takeCondition (text : List Char) : Condition × List Char :=
  let behind := text.dropWhile isFree
  let rest := behind.dropWhile isSign
  (⟨text.takeWhile isFree, behind.takeWhile isSign, rest.takeWhile isFree⟩, rest.dropWhile isFree)

/-- Reads shapes up to the end of a text or to a parenthesis that closes nothing, at most `bound` of them, and
    gives what is left. -/
def read : Nat → List Char → List (Shape Condition) × List Char
  | 0, text => ([], text)
  | bound + 1, text =>
    match text with
    | [] => ([], [])
    | ')' :: rest => ([], ')' :: rest)
    | ',' :: rest =>
      let (others, last) := read bound rest
      (.connective .and :: others, last)
    | '|' :: rest =>
      let (others, last) := read bound rest
      (.connective .or :: others, last)
    | '(' :: rest =>
      let (inner, behind) := read bound rest
      let (others, last) := read bound (behind.drop 1)
      (.group inner :: others, last)
    | text =>
      let (condition, behind) := takeCondition text
      let (others, last) := read bound behind
      (.leaf condition :: others, last)

/-! ### Where runs end -/

/-- A sign is not free. -/
theorem isFree_of_isSign {c : Char} (h : isSign c = true) : isFree c = false := by
  rw [isSign, List.contains_iff_mem] at h
  rw [isFree, Bool.not_eq_false', List.contains_iff_mem]
  exact List.mem_append_right _ h

/-- A free character is no sign. -/
theorem isSign_of_isFree {c : Char} (h : isFree c = true) : isSign c = false := by
  rw [Bool.eq_false_iff]
  intro sign
  rw [isFree_of_isSign sign] at h
  cases h

/-- A mark is neither free nor a sign. -/
theorem of_mark {c : Char} (h : marks.contains c = true) : isFree c = false ∧ isSign c = false := by
  rw [List.contains_iff_mem] at h
  constructor
  · rw [isFree, Bool.not_eq_false', List.contains_iff_mem]
    exact List.mem_append_left _ h
  · simp only [marks, List.mem_cons, List.not_mem_nil, or_false] at h
    rcases h with rfl | rfl | rfl | rfl <;> decide

/-- What delimits a value ends free characters, and ends signs where the value is empty. -/
theorem Delimited.stops {text : List Char} (delimited : Delimited text) :
    StopsAt isFree text ∧ StopsAt isSign text := by
  constructor
  · intro c hc
    exact (of_mark (by simpa using delimited c hc)).1
  · intro c hc
    exact (of_mark (by simpa using delimited c hc)).2

theorem delimited_cons {c : Char} {text : List Char} (h : marks.contains c = true) : Delimited (c :: text) := by
  intro d hd
  cases hd
  exact congrArg not h

/-- A plain condition is taken off in front of what delimits it. -/
theorem takeCondition_chars {condition : Condition} (plain : condition.Plain) {rest : List Char}
    (delimited : Delimited rest) : takeCondition (condition.chars ++ rest) = (condition, rest) := by
  obtain ⟨field, symbol, value⟩ := condition
  obtain ⟨stopsFree, stopsSign⟩ := delimited.stops
  have afterField : StopsAt isFree (symbol ++ (value ++ rest)) := by
    cases symbol with
    | nil => exact absurd rfl plain.marked
    | cons c symbol =>
        intro d hd
        cases hd
        exact isFree_of_isSign (plain.symbol c List.mem_cons_self)
  have afterSymbol : StopsAt isSign (value ++ rest) := by
    cases value with
    | nil => exact stopsSign
    | cons c value =>
        intro d hd
        cases hd
        exact isSign_of_isFree (plain.value c List.mem_cons_self)
  rw [takeCondition, Condition.chars, List.append_assoc, List.append_assoc]
  simp only [Text.takeWhile_run plain.field afterField, Text.dropWhile_run plain.field afterField,
    Text.takeWhile_run plain.symbol afterSymbol, Text.dropWhile_run plain.symbol afterSymbol,
    Text.takeWhile_run plain.value stopsFree, Text.dropWhile_run plain.value stopsFree]

/-- What begins with a free character begins with a condition. -/
theorem read_free {bound : Nat} {c : Char} {text : List Char} (h : isFree c = true) :
    read (bound + 1) (c :: text) =
      (.leaf (takeCondition (c :: text)).1 :: (read bound (takeCondition (c :: text)).2).1,
        (read bound (takeCondition (c :: text)).2).2) := by
  have apart : ∀ mark ∈ marks, ∀ rest, c :: text ≠ mark :: rest := by
    rintro mark hmark rest heq
    rw [(List.cons.inj heq).1, (of_mark (List.contains_iff_mem.mpr hmark)).1] at h
    cases h
  rw [read]
  · exact List.cons_ne_nil _ _
  · exact apart ')' (by decide)
  · exact apart ',' (by decide)
  · exact apart '|' (by decide)
  · exact apart '(' (by decide)

/-! ### Reading back -/

/-- Shapes as trees give them: plain conditions, no negation, and no operand right behind another; the flag says
    whether an operand stands right before them. -/
inductive WellLaid : Bool → List (Shape Condition) → Prop where
  | nil {after : Bool} : WellLaid after []
  | leaf {condition : Condition} {rest : List (Shape Condition)} (plain : condition.Plain)
      (behind : WellLaid true rest) : WellLaid false (.leaf condition :: rest)
  | connective {after : Bool} {connective : Connective} {rest : List (Shape Condition)}
      (told : connective ≠ .not) (behind : WellLaid false rest) : WellLaid after (.connective connective :: rest)
  | group {inner rest : List (Shape Condition)} (inside : WellLaid false inner) (behind : WellLaid true rest) :
      WellLaid false (.group inner :: rest)

/-- The text of shapes in a remote query. -/
def writeShapes : List (Shape Condition) → List Char :=
  Shape.writeAll connective Condition.chars

/-- Behind an operand there is a mark, or nothing. -/
theorem WellLaid.delimited {shapes : List (Shape Condition)} (laid : WellLaid true shapes) {rest : List Char}
    (ended : StopsAt (· != ')') rest) : Delimited (writeShapes shapes ++ rest) := by
  cases laid with
  | nil =>
      intro c hc
      have hclose : c = ')' := by simpa using ended c hc
      rw [hclose]
      rfl
  | @connective _ symbol _ told behind =>
      cases symbol with
      | and => exact delimited_cons rfl
      | or => exact delimited_cons rfl
      | not => exact absurd rfl told

/-- The text of shapes reads as the shapes, in front of nothing or of a closing parenthesis. -/
theorem WellLaid.read_writeShapes {after : Bool} {shapes : List (Shape Condition)}
    (laid : WellLaid after shapes) : ∀ {bound : Nat} {rest : List Char}, StopsAt (· != ')') rest →
      (writeShapes shapes ++ rest).length ≤ bound → read bound (writeShapes shapes ++ rest) = (shapes, rest) := by
  induction laid with
  | nil =>
      intro bound rest ended _
      rw [writeShapes, Shape.writeAll, List.nil_append]
      cases bound with
      | zero => rfl
      | succ bound =>
          cases rest with
          | nil => rfl
          | cons c rest =>
              obtain rfl : c = ')' := by simpa using ended c rfl
              rfl
  | @leaf condition shapes plain behind ih =>
      intro bound rest ended enough
      have htext : writeShapes (.leaf condition :: shapes) ++ rest =
          condition.chars ++ (writeShapes shapes ++ rest) := List.append_assoc _ _ _
      obtain ⟨c, more, hchars, free⟩ := plain.exists_free
      rw [htext, List.length_append, hchars, List.length_cons] at enough
      cases bound with
      | zero => omega
      | succ bound =>
          rw [htext, hchars, List.cons_append, read_free free, ← List.cons_append, ← hchars,
            takeCondition_chars plain (behind.delimited ended), ih ended (by omega)]
  | @connective _ symbol shapes told behind ih =>
      intro bound rest ended enough
      have htext : writeShapes (.connective symbol :: shapes) ++ rest =
          Query.connective symbol ++ (writeShapes shapes ++ rest) := List.append_assoc _ _ _
      rw [htext, List.length_append] at enough
      rw [htext]
      cases symbol with
      | not => exact absurd rfl told
      | and | or =>
          cases bound with
          | zero => simp [Query.connective] at enough
          | succ bound =>
              rw [Query.connective, List.length_singleton] at enough
              rw [Query.connective, List.singleton_append, read, ih ended (by omega)]
  | @group inner shapes inside behind ihInside ihBehind =>
      intro bound rest ended enough
      have htext : writeShapes (.group inner :: shapes) ++ rest =
          '(' :: (writeShapes inner ++ ')' :: (writeShapes shapes ++ rest)) := by
        simp [writeShapes, Shape.writeAll, Shape.write]
      rw [htext, List.length_cons, List.length_append, List.length_cons] at enough
      cases bound with
      | zero => omega
      | succ bound =>
          have held := @ihInside bound (')' :: (writeShapes shapes ++ rest)) (by simp [StopsAt])
            (by rw [List.length_append, List.length_cons]; omega)
          have others := @ihBehind bound rest ended (by omega)
          rw [htext, read, held]
          simp only [List.drop_one, List.tail_cons, others]

/-! ### Trees -/

/-- An operand may stand behind another one when an `&&` comes between them. -/
theorem WellLaid.joined {shapes : List (Shape Condition)} (laid : WellLaid false shapes) (after : Bool) :
    WellLaid after ((if after && true then [.connective .and] else []) ++ shapes) := by
  cases after with
  | false => exact laid
  | true => exact .connective (by decide) laid

/-- The shapes of plain siblings without negations are well laid. -/
theorem wellLaid_shapesAfter : ∀ (after : Bool) {nodes : List Node},
    Node.EveryAmong Comparison.Plain (· ≠ .not) nodes →
      WellLaid after (Node.shapesAfter Condition.ofComparison after nodes)
  | _, [], _ => .nil
  | after, .comparison _ _ :: _, every =>
      WellLaid.joined (.leaf (plain_ofComparison every.1) (wellLaid_shapesAfter true every.2)) after
  | after, .group _ _ :: _, every =>
      WellLaid.joined (.group (wellLaid_shapesAfter false every.1) (wellLaid_shapesAfter true every.2)) after
  | after, .connective _ _ :: rest, every => by
      rw [Node.shapesAfter, Node.isOperand, Bool.and_false]
      exact .connective every.1 (wellLaid_shapesAfter false every.2)

/-- The filter text of plain siblings without negations is the text of their shapes. -/
theorem filterText_shapes {nodes : List Node} (every : Node.EveryAmong Comparison.Plain (· ≠ .not) nodes) :
    (filterText nodes).toList = writeShapes (Node.shapes Condition.ofComparison nodes) := by
  rw [filterText, String.toList_ofList]
  exact Spelling.writeAll_shapes (fun _ plain => condition_chars plain) every

/-- It reads as these shapes, with nothing left. -/
theorem read_filterText {nodes : List Node} (every : Node.EveryAmong Comparison.Plain (· ≠ .not) nodes) :
    read (filterText nodes).toList.length (filterText nodes).toList =
      (Node.shapes Condition.ofComparison nodes, []) := by
  have laid := wellLaid_shapesAfter false every
  have reads := @WellLaid.read_writeShapes _ _ laid (filterText nodes).toList.length [] (by simp [StopsAt])
    (by rw [filterText_shapes every, List.append_nil]; exact Nat.le_refl _)
  rw [List.append_nil] at reads
  rw [filterText_shapes every] at reads ⊢
  exact reads

/-- The filter text determines the tree up to its shape: two trees without negations, with plain comparisons,
    have one text exactly when they are equal after an `&&` is put between adjacent operands at every depth,
    labels are forgotten, and of each comparison the plain field, the symbol and the bare value are left. -/
theorem filterText_eq_iff {first second : List Node}
    (plainFirst : Node.EveryAmong Comparison.Plain (· ≠ .not) first)
    (plainSecond : Node.EveryAmong Comparison.Plain (· ≠ .not) second) :
    filterText first = filterText second ↔
      Node.shapes Condition.ofComparison first = Node.shapes Condition.ofComparison second := by
  constructor
  · intro same
    have readFirst := read_filterText plainFirst
    rw [same, read_filterText plainSecond] at readFirst
    exact (congrArg Prod.fst readFirst).symm
  · intro same
    apply String.toList_injective
    rw [filterText_shapes plainFirst, filterText_shapes plainSecond, same]

/-- A null that is asked for and a text that says so, a later day and a greater text, the mark of an optional
    step, an `&&` that is implied: none of them shows. -/
theorem filterText_eq_of_collapsed :
    let first : List Node := [.comparison ⟨"a", none⟩ ⟨"a?.b", .isNull, .null⟩,
      .group ⟨"g", none⟩ [.comparison ⟨"b", some "g"⟩ ⟨"day", .isDateGreaterThan, .text "2024-01"⟩]]
    let second : List Node := [.comparison ⟨"c", none⟩ ⟨"a.b", .equals, .text "null"⟩,
      .connective ⟨"d", none⟩ .and,
      .group ⟨"h", none⟩ [.comparison ⟨"e", none⟩ ⟨"day", .greaterThan, .text "2024-01"⟩]]
    Node.EveryAmong Comparison.Plain (· ≠ .not) first ∧ Node.EveryAmong Comparison.Plain (· ≠ .not) second ∧
      filterText first = filterText second := by
  intro first second
  have path : ∀ c ∈ ['a', '.', 'b'], c ∉ marks ++ signs := by simp [marks, signs]
  have null : ∀ c ∈ ['n', 'u', 'l', 'l'], c ∉ marks ++ signs := by simp [marks, signs]
  have day : ∀ c ∈ ['d', 'a', 'y'], c ∉ marks ++ signs := by simp [marks, signs]
  have january : ∀ c ∈ ['2', '0', '2', '4', '-', '0', '1'], c ∉ marks ++ signs := by simp [marks, signs]
  have plainFirst : Node.EveryAmong Comparison.Plain (· ≠ .not) first :=
    ⟨⟨nofun, path, null⟩, ⟨⟨nofun, day, january⟩, trivial⟩, trivial⟩
  have plainSecond : Node.EveryAmong Comparison.Plain (· ≠ .not) second :=
    ⟨⟨nofun, path, null⟩, nofun, ⟨⟨nofun, day, january⟩, trivial⟩, trivial⟩
  exact ⟨plainFirst, plainSecond, (filterText_eq_iff plainFirst plainSecond).mpr rfl⟩

end Query

end FilterTree
