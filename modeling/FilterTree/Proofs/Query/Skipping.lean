/-
Module: FilterTree.Proofs.Query.Skipping
Layer: Proofs
Purpose: Comparisons that name no field. A remote query has no words for them and writes nothing, but they still
  count as operands, so the commas around them stay. In a tree without connectives each of them leaves one
  comma, and one less where a list of siblings has nothing else. So the filter text is that of the tree without
  them exactly when each of them stands alone among its siblings.
Imports: FilterTree.Proofs.Tree.Shape, FilterTree.Query.Envelope
Main exports: Node.prunedAll, Node.straysAmong, Query.Strays, Query.filterText_prunedAll
-/
import FilterTree.Proofs.Tree.Shape
import FilterTree.Query.Envelope

namespace FilterTree

namespace Node

/-- A comparison that names no field. -/
def isSkipped : Node → Bool
  | .comparison _ c => c.field.isEmpty
  | _ => false

mutual

/-- A node without the comparisons inside it that name no field. -/
def pruned : Node → Node
  | .group label children => .group label (prunedAll children)
  | node => node

/-- Siblings without the comparisons that name no field, at every depth. -/
def prunedAll : List Node → List Node
  | [] => []
  | node :: rest => if node.isSkipped then prunedAll rest else pruned node :: prunedAll rest

end

mutual

/-- The commas that skipped comparisons leave in a node that stands behind an operand: the one in front of such
    a comparison, and those inside a group, which has one comma less than operands. -/
def strays : Node → Nat
  | .comparison _ c => if c.field.isEmpty then 1 else 0
  | .connective _ _ => 0
  | .group _ children => straysBehind children - if children.all isSkipped then 1 else 0

/-- The commas that skipped comparisons leave among siblings behind an operand. -/
def straysBehind : List Node → Nat
  | [] => 0
  | node :: rest => strays node + straysBehind rest

end

/-- The commas that skipped comparisons leave among siblings: one each, but one less where there is nothing
    else to separate. -/
def straysAmong (siblings : List Node) : Nat :=
  straysBehind siblings - if siblings.all isSkipped then 1 else 0

/-- A skipped comparison among siblings is the only one of them. -/
def SkipsAlone (siblings : List Node) : Prop :=
  siblings.length ≤ 1 ∨ ∀ node ∈ siblings, node.isSkipped = false

mutual

/-- A skipped comparison is alone in the groups of a node. -/
def Tidy : Node → Prop
  | .group _ children => SkipsAlone children ∧ TidyBelow children
  | _ => True

/-- A skipped comparison is alone in the groups among and below siblings. -/
def TidyBelow : List Node → Prop
  | [] => True
  | node :: rest => Tidy node ∧ TidyBelow rest

end

/-- A skipped comparison is alone among its siblings, at every depth. -/
def TidyAmong (siblings : List Node) : Prop :=
  SkipsAlone siblings ∧ TidyBelow siblings

/-! ### Counting commas -/

/-- Where all siblings are skipped comparisons, each leaves a comma behind an operand. -/
theorem straysBehind_of_all {siblings : List Node} (all : siblings.all isSkipped = true) :
    straysBehind siblings = siblings.length ∧ TidyBelow siblings := by
  induction siblings with
  | nil => exact ⟨rfl, trivial⟩
  | cons node rest ih =>
      rw [List.all_cons, Bool.and_eq_true] at all
      obtain ⟨count, tidy⟩ := ih all.2
      cases node with
      | comparison label c =>
          have skipped : c.field.isEmpty = true := all.1
          rw [straysBehind, strays, if_pos skipped, count, List.length_cons, Nat.add_comm]
          exact ⟨rfl, trivial, tidy⟩
      | connective | group => cases all.1

theorem strays_of_skipped {node : Node} (skipped : node.isSkipped = true) : node.strays = 1 := by
  cases node with
  | comparison label c => exact if_pos skipped
  | connective | group => cases skipped

/-- In front of others a skipped comparison leaves one comma more. -/
theorem straysAmong_cons_skipped {node : Node} {rest : List Node} (skipped : node.isSkipped = true)
    (others : rest ≠ []) : straysAmong (node :: rest) = straysAmong rest + 1 := by
  rw [straysAmong, straysAmong, List.all_cons, skipped, Bool.true_and, straysBehind, strays_of_skipped skipped]
  cases all : rest.all isSkipped with
  | true =>
      have count := (straysBehind_of_all all).1
      have filled := List.length_pos_iff.mpr others
      simp only [if_true]
      omega
  | false => exact Nat.add_comm 1 _

/-- When it is known which siblings leave no comma behind an operand, it is known which leave none at all: one
    skipped comparison may be there without others. -/
theorem straysAmong_eq_zero_of {siblings : List Node}
    (behind : straysBehind siblings = 0 ↔ (∀ node ∈ siblings, node.isSkipped = false) ∧ TidyBelow siblings) :
    straysAmong siblings = 0 ↔ TidyAmong siblings := by
  cases all : siblings.all isSkipped with
  | true =>
      obtain ⟨count, tidy⟩ := straysBehind_of_all all
      rw [straysAmong, if_pos all, count, TidyAmong, SkipsAlone, and_iff_left tidy, Nat.sub_eq_zero_iff_le]
      refine ⟨.inl, ?_⟩
      rintro (alone | none)
      · exact alone
      · cases siblings with
        | nil => exact Nat.zero_le 1
        | cons node rest =>
            rw [List.all_cons, none node List.mem_cons_self] at all
            cases all
  | false =>
      rw [straysAmong, if_neg (by rw [all]; exact Bool.false_ne_true), Nat.sub_zero, behind, TidyAmong, SkipsAlone]
      refine and_congr_left fun _ => ⟨.inr, ?_⟩
      rintro (alone | none)
      · match siblings, alone, all with
        | [], _, all => cases all
        | [node], _, all =>
            rw [List.all_cons, List.all_nil, Bool.and_true] at all
            exact List.forall_mem_singleton.mpr all
      · exact none

mutual

theorem strays_eq_zero_iff : ∀ node : Node, strays node = 0 ↔ node.isSkipped = false ∧ Tidy node
  | .comparison _ c => by cases h : c.field.isEmpty <;> simp [strays, isSkipped, Tidy, h]
  | .connective _ _ => by simp [strays, isSkipped, Tidy]
  | .group _ children =>
      (straysAmong_eq_zero_of (straysBehind_eq_zero_iff children)).trans (and_iff_right rfl).symm

theorem straysBehind_eq_zero_iff : ∀ siblings : List Node,
    straysBehind siblings = 0 ↔ (∀ node ∈ siblings, node.isSkipped = false) ∧ TidyBelow siblings
  | [] => by simp [straysBehind, TidyBelow]
  | node :: rest => by
      rw [straysBehind, Nat.add_eq_zero_iff, strays_eq_zero_iff node, straysBehind_eq_zero_iff rest,
        List.forall_mem_cons, TidyBelow]
      exact and_and_and_comm

end

/-- No comma is left over exactly when skipped comparisons are alone. -/
theorem straysAmong_eq_zero_iff (siblings : List Node) : straysAmong siblings = 0 ↔ TidyAmong siblings :=
  straysAmong_eq_zero_of (straysBehind_eq_zero_iff siblings)

end Node

namespace Query

/-! ### Texts with commas left over -/

/-- The second text is the first one with a number of commas more. -/
inductive Strays : Nat → List Char → List Char → Prop where
  | nil : Strays 0 [] []
  | same {count : Nat} {short long : List Char} (c : Char) (rest : Strays count short long) :
      Strays count (c :: short) (c :: long)
  | comma {count : Nat} {short long : List Char} (rest : Strays count short long) :
      Strays (count + 1) short (',' :: long)

namespace Strays

theorem refl : ∀ text : List Char, Strays 0 text text
  | [] => .nil
  | c :: text => .same c (refl text)

theorem append {m n : Nat} {short long others more : List Char} (first : Strays m short long)
    (second : Strays n others more) : Strays (m + n) (short ++ others) (long ++ more) := by
  induction first with
  | nil =>
      rw [Nat.zero_add]
      exact second
  | same c rest ih => exact .same c ih
  | comma rest ih =>
      rw [Nat.add_right_comm]
      exact .comma ih

theorem length {count : Nat} {short long : List Char} (strays : Strays count short long) :
    long.length = short.length + count := by
  induction strays with
  | nil => rfl
  | same c rest ih => rw [List.length_cons, List.length_cons, ih, Nat.add_right_comm]
  | comma rest ih => rw [List.length_cons, ih, Nat.add_assoc]

/-- Without a comma more, the texts are the same. -/
theorem eq_iff {count : Nat} {short long : List Char} (strays : Strays count short long) :
    long = short ↔ count = 0 := by
  constructor
  · rintro rfl
    have := strays.length
    omega
  · intro none
    induction strays with
    | nil => rfl
    | same c rest ih => rw [ih none]
    | comma => cases none

end Strays

/-! ### Writing trees without connectives -/

/-- Siblings without connectives, at any depth. -/
def Unconnected : List Node → Prop :=
  Node.EveryAmong (fun _ => True) (fun _ => False)

open Node

theorem isOperand_of_every {node : Node} (every : node.Every (fun _ => True) (fun _ => False)) :
    node.isOperand = true := by
  cases node with
  | comparison | group => rfl
  | connective => exact every.elim

theorem isOperand_pruned (node : Node) : node.pruned.isOperand = node.isOperand := by
  cases node <;> rfl

/-- An operand, and behind it its siblings. -/
theorem writeAfter_operand {node : Node} (operand : node.isOperand = true) (after : Bool) (rest : List Node) :
    spelling.writeAfter after (node :: rest) =
      (if after then [','] else []) ++ (spelling.write node ++ spelling.writeAfter true rest) := by
  rw [Spelling.writeAfter, operand, Bool.and_true]
  rfl

theorem write_skipped {node : Node} (skipped : node.isSkipped = true) : spelling.write node = [] := by
  cases node with
  | comparison label c => exact if_pos skipped
  | connective | group => cases skipped

mutual

/-- A node that is not skipped is written with the commas that are left over in it. -/
theorem strays_write : ∀ {node : Node}, node.Every (fun _ => True) (fun _ => False) → node.isSkipped = false →
    Strays node.strays (spelling.write node.pruned) (spelling.write node)
  | .comparison label c, _, named => by
      have none : strays (.comparison label c) = 0 := if_neg (by rw [← Bool.not_eq_true] at named; exact named)
      rw [none]
      exact .refl _
  | .connective _ _, every, _ => every.elim
  | .group label children, every, _ =>
      .same '(' ((strays_writeAll every).append (.refl [')']))

/-- Siblings behind an operand are written with the commas that are left over among them. -/
theorem strays_writeBehind : ∀ {siblings : List Node}, Unconnected siblings →
    Strays (straysBehind siblings) (spelling.writeAfter true (prunedAll siblings))
      (spelling.writeAfter true siblings)
  | [], _ => .nil
  | node :: rest, every => by
      have operand := isOperand_of_every every.1
      have behind := strays_writeBehind every.2
      rw [writeAfter_operand operand, straysBehind, prunedAll]
      cases skipped : node.isSkipped with
      | true =>
          rw [write_skipped skipped, strays_of_skipped skipped, Nat.add_comm]
          exact .comma behind
      | false =>
          rw [if_neg Bool.false_ne_true, writeAfter_operand ((isOperand_pruned node).trans operand)]
          exact .same ',' ((strays_write every.1 skipped).append behind)

/-- Siblings are written with the commas that are left over among them. -/
theorem strays_writeAll : ∀ {siblings : List Node}, Unconnected siblings →
    Strays (straysAmong siblings) (spelling.writeAll (prunedAll siblings)) (spelling.writeAll siblings)
  | [], _ => .nil
  | node :: rest, every => by
      have operand := isOperand_of_every every.1
      rw [Spelling.writeAll, Spelling.writeAll, writeAfter_operand operand, prunedAll]
      cases skipped : node.isSkipped with
      | true =>
          have among := strays_writeAll every.2
          rw [write_skipped skipped]
          cases rest with
          | nil =>
              have none : straysAmong [node] = 0 := by
                rw [straysAmong, straysBehind, strays_of_skipped skipped, List.all_cons, skipped]
                rfl
              rw [none]
              exact .nil
          | cons next rest =>
              have joint : spelling.writeAfter true (next :: rest) = ',' :: spelling.writeAll (next :: rest) := by
                rw [Spelling.writeAll, writeAfter_operand (isOperand_of_every every.2.1),
                  writeAfter_operand (isOperand_of_every every.2.1)]
                rfl
              rw [straysAmong_cons_skipped skipped (List.cons_ne_nil next rest), joint]
              exact .comma among
      | false =>
          have count : straysAmong (node :: rest) = node.strays + straysBehind rest := by
            rw [straysAmong, List.all_cons, skipped]
            rfl
          rw [if_neg Bool.false_ne_true, writeAfter_operand ((isOperand_pruned node).trans operand), count]
          exact (strays_write every.1 skipped).append (strays_writeBehind every.2)

end

/-- In a tree without connectives, the filter text is that of the tree without the comparisons that name no
    field, with the commas more that these leave; so it is the same text exactly when each of them stands alone
    among its siblings. -/
theorem filterText_prunedAll {nodes : List Node} (unconnected : Unconnected nodes) :
    Strays (straysAmong nodes) (filterText (prunedAll nodes)).toList (filterText nodes).toList ∧
      (filterText nodes = filterText (prunedAll nodes) ↔ TidyAmong nodes) := by
  have strays : Strays (straysAmong nodes) (filterText (prunedAll nodes)).toList (filterText nodes).toList := by
    rw [filterText, filterText, String.toList_ofList, String.toList_ofList]
    exact strays_writeAll unconnected
  refine ⟨strays, ?_⟩
  rw [← String.toList_inj, strays.eq_iff, straysAmong_eq_zero_iff]

/-- A skipped comparison at the front of a list leaves a comma; one that is alone in its group leaves none. -/
theorem filterText_prunedAll_of_first :
    let first : Node := .comparison ⟨"a", none⟩ ⟨"", .equals, .bool true⟩
    let second : Node := .group ⟨"g", none⟩ [.comparison ⟨"b", some "g"⟩ ⟨"", .isNull, .undefined⟩]
    Unconnected [first, second] ∧ straysAmong [first, second] = 1 ∧
      Strays 1 (filterText (prunedAll [first, second])).toList (filterText [first, second]).toList := by
  intro first second
  have unconnected : Unconnected [first, second] := ⟨trivial, ⟨trivial, trivial⟩, trivial⟩
  exact ⟨unconnected, by decide, (filterText_prunedAll unconnected).1⟩

/-- A skipped comparison in front of another one leaves the comma between them at the front of the text. -/
theorem skipped_leaves_comma :
    let nodes : List Node := [.comparison ⟨"x", none⟩ ⟨"", .equals, .text "1"⟩,
      .comparison ⟨"y", none⟩ ⟨"a", .equals, .text "1"⟩]
    Unconnected nodes ∧ filterText nodes = ",a=1" ∧ filterText (prunedAll nodes) = "a=1" ∧
      filterText nodes ≠ filterText (prunedAll nodes) :=
  ⟨⟨trivial, trivial, trivial⟩, rfl, rfl, by decide⟩

end Query

end FilterTree
