/-
Module: FilterTree.Proofs.Builder.Runs
Layer: Proofs
Purpose: Runs of the builder, over any number of calls in any order, in which no node goes into two groups. Ids are
  given out one by one, each with a number of its own, so that all nodes of all trees have different ids while
  the numbers last. A group names itself as the parent of its children and leaves everything below them as it
  was, and what is in no group has no parent.
Imports: Mathlib, FilterTree.Proofs.Builder.Grouping, FilterTree.Proofs.Text
Main exports: Node.members, Node.holdings, Builder.GivenOut, Builder.Gains, Builder.Joined.gains, Builder.Call,
  Builder.Call.makes, Builder.Bench, Builder.Run, Builder.Run.sound, Builder.ids_distinct_and_linked
-/
import Mathlib
import FilterTree.Proofs.Builder.Grouping
import FilterTree.Proofs.Text

namespace FilterTree

namespace Node

/-! ### The nodes of a tree -/

mutual

/-- The depth at which an outline begins changes none of its nodes. -/
theorem outline_nodes (depth other : Nat) :
    ∀ node : Node, (outline depth node).map Prod.snd = (outline other node).map Prod.snd
  | .comparison _ _ => rfl
  | .connective _ _ => rfl
  | .group label children => by
      rw [outline, outline, List.map_cons, List.map_cons, outlineAll_nodes (depth + 1) (other + 1) children]

/-- The depth at which an outline begins changes none of its nodes. -/
theorem outlineAll_nodes (depth other : Nat) :
    ∀ nodes : List Node, (outlineAll depth nodes).map Prod.snd = (outlineAll other nodes).map Prod.snd
  | [] => rfl
  | node :: rest => by
      rw [outlineAll, outlineAll, List.map_append, List.map_append, outline_nodes depth other node,
        outlineAll_nodes depth other rest]

end

/-- The nodes of a tree at all depths, itself included. -/
def members (tree : Node) : List Node :=
  (tree.outline 0).map Prod.snd

theorem outlineAll_members (depth : Nat) (trees : List Node) :
    (outlineAll depth trees).map Prod.snd = trees.flatMap members := by
  induction trees with
  | nil => rfl
  | cons tree rest ih =>
      rw [outlineAll, List.map_append, ih, outline_nodes depth 0 tree, List.flatMap_cons]
      rfl

/-- A tree has its top node and the nodes of its children. -/
theorem members_eq (tree : Node) : tree.members = tree :: tree.children.flatMap members := by
  cases tree with
  | comparison label c => rfl
  | connective label c => rfl
  | group label children =>
      rw [members, outline, List.map_cons, outlineAll_members]
      rfl

/-- What the nodes of some trees hold: the id of each of them, with its children. The parents that the top nodes
    name do not show in it. -/
def holdings (trees : List Node) : List (String × List Node) :=
  (trees.flatMap members).map fun node => (node.label.id, node.children)

theorem holdings_cons (tree : Node) (rest : List Node) :
    holdings (tree :: rest) = (tree.label.id, tree.children) :: (holdings tree.children ++ holdings rest) := by
  rw [holdings, List.flatMap_cons, members_eq, List.cons_append, List.map_cons, List.map_append]
  rfl

theorem holdings_append (first second : List Node) :
    holdings (first ++ second) = holdings first ++ holdings second := by
  rw [holdings, List.flatMap_append, List.map_append]
  rfl

/-- Under another parent a tree holds what it held. -/
theorem holdings_withParent (parent : String) (tree : Node) (rest : List Node) :
    holdings (tree.withParent parent :: rest) = holdings (tree :: rest) := by
  rw [holdings_cons, holdings_cons, withParent_label, withParent_children]

/-- Trees in another order hold the same in another order. -/
theorem holdings_perm {first second : List Node} (same : first.Perm second) :
    (holdings first).Perm (holdings second) :=
  (same.flatMap fun _ _ => .refl _).map _

/-- The children that are held under an id name it as their parent. -/
def Linked (held : String × List Node) : Prop :=
  ∀ child ∈ held.2, child.label.parent = some held.1

theorem linked_nil (id : String) : Linked (id, []) :=
  nofun

end Node

namespace Builder

/-! ### Ids -/

/-- Ids of kinds without a dash tell what is written of their numbers. -/
theorem written_of_idOf {kind other : String} {number another : Nat} (plain : '-' ∉ kind.toList)
    (plainOther : '-' ∉ other.toList) (same : idOf kind number = idOf other another) :
    number % UInt64.size = another % UInt64.size := by
  have spelled : ∀ {kind : String} (number : Nat), '-' ∉ kind.toList →
      (idOf kind number).toList.dropWhile (· != '-') = '-' :: (toString (number % UInt64.size)).toList := by
    intro kind number plain
    have inside : ∀ c ∈ kind.toList, (c != '-') = true := by
      rintro c hc
      rw [bne_iff_ne]
      rintro rfl
      exact plain hc
    have stops : Text.StopsAt (· != '-') ('-' :: (toString (number % UInt64.size)).toList) := by
      rintro c hc
      cases hc
      rfl
    rw [idOf, String.toList_append, String.toList_append, List.append_assoc]
    exact Text.dropWhile_run inside stops
  have digits := spelled number plain
  rw [same, spelled another plainOther] at digits
  exact (Nat.repr_injective (String.toList_injective (List.cons.inj digits).2)).symm

/-- Ids as the builder gives them out, one behind the other, each with the next number. -/
inductive GivenOut : Nat → List String → Nat → Prop where
  | nil {number : Nat} : GivenOut number [] number
  | cons {number next : Nat} {kind : String} {ids : List String} (plain : '-' ∉ kind.toList)
      (behind : GivenOut (number + 1) ids next) : GivenOut number (idOf kind number :: ids) next

namespace GivenOut

variable {first number next : Nat} {ids more : List String}

theorem append (before : GivenOut first ids number) (behind : GivenOut number more next) :
    GivenOut first (ids ++ more) next := by
  induction before with
  | nil => exact behind
  | cons plain _ ih => exact .cons plain (ih behind)

/-- Every id has a number of the run. -/
theorem exists_number (given : GivenOut first ids next) :
    first ≤ next ∧ ∀ id ∈ ids, ∃ kind number, '-' ∉ kind.toList ∧ first ≤ number ∧ number < next ∧
      id = idOf kind number := by
  induction given with
  | nil => exact ⟨Nat.le_refl _, nofun⟩
  | @cons number next kind ids plain behind ih =>
      obtain ⟨reached, behind⟩ := ih
      refine ⟨Nat.le_of_succ_le reached, List.forall_mem_cons.mpr ⟨?_, ?_⟩⟩
      · exact ⟨kind, number, plain, Nat.le_refl _, reached, rfl⟩
      · intro id hid
        obtain ⟨other, another, plain, low, high, rfl⟩ := behind id hid
        exact ⟨other, another, plain, Nat.le_of_succ_le low, high, rfl⟩

/-- Ids are different while the numbers last. -/
theorem nodup (given : GivenOut first ids next) (last : next ≤ UInt64.size) : ids.Nodup := by
  induction given with
  | nil => exact List.nodup_nil
  | @cons number next kind ids plain behind ih =>
      obtain ⟨reached, others⟩ := behind.exists_number
      refine List.nodup_cons.mpr ⟨?_, ih last⟩
      intro again
      obtain ⟨other, another, plainOther, low, high, same⟩ := others _ again
      have written := written_of_idOf plain plainOther same
      rw [Nat.mod_eq_of_lt (by omega), Nat.mod_eq_of_lt (by omega)] at written
      omega

end GivenOut

/-! ### What trees gain -/

/-- Trees hold what other trees held before, and besides something under each of the ids given out meanwhile,
    where every child names its parent. -/
def Gains (number : Nat) (before after : List Node) (next : Nat) : Prop :=
  ∃ gained : List (String × List Node), GivenOut number (gained.map Prod.fst) next ∧
    (∀ held ∈ gained, Node.Linked held) ∧ (Node.holdings after).Perm (gained ++ Node.holdings before)

namespace Gains

variable {first number next : Nat} {start before after : List Node}

/-- Trees in another order have nothing gained. -/
theorem of_perm (same : after.Perm before) : Gains number before after number :=
  ⟨[], .nil, nofun, Node.holdings_perm same⟩

/-- Gains add up. -/
theorem trans (earlier : Gains first start before number) (later : Gains number before after next) :
    Gains first start after next := by
  obtain ⟨gained, given, linked, same⟩ := earlier
  obtain ⟨more, givenMore, linkedMore, sameMore⟩ := later
  refine ⟨gained ++ more, ?_, ?_, ?_⟩
  · rw [List.map_append]
    exact given.append givenMore
  · exact List.forall_mem_append.mpr ⟨linked, linkedMore⟩
  · refine sameMore.trans ((same.append_left more).trans ?_)
    rw [List.append_assoc]
    exact List.perm_append_comm_assoc more gained _

/-- Trees that stay beside the others gain nothing. -/
theorem beside (gains : Gains number before after next) (others : List Node) :
    Gains number (before ++ others) (after ++ others) next := by
  obtain ⟨gained, given, linked, same⟩ := gains
  refine ⟨gained, given, linked, ?_⟩
  rw [Node.holdings_append, Node.holdings_append, ← List.append_assoc]
  exact same.append_right _

/-- A tree that is given another parent is no gain. -/
theorem withParent (parent : String) (tree : Node) (gains : Gains number before after next) :
    Gains number (tree :: before) (tree.withParent parent :: after) next := by
  obtain ⟨gained, given, linked, same⟩ := gains
  refine ⟨gained, given, linked, ?_⟩
  rw [Node.holdings_withParent, Node.holdings_cons, Node.holdings_cons]
  have below := (same.append_left (Node.holdings tree.children)).trans (List.perm_append_comm_assoc _ gained _)
  exact (below.cons _).trans List.perm_middle.symm

/-- One more node under a new id, with children that name it, is a gain. -/
theorem cons {kind : String} {made : Node} (plain : '-' ∉ kind.toList) (named : made.label.id = idOf kind number)
    (linked : Node.Linked (made.label.id, made.children))
    (gains : Gains (number + 1) before (made.children ++ after) next) :
    Gains number before (made :: after) next := by
  obtain ⟨gained, given, linkedGained, same⟩ := gains
  refine ⟨(made.label.id, made.children) :: gained, ?_, List.forall_mem_cons.mpr ⟨linked, linkedGained⟩, ?_⟩
  · rw [List.map_cons, named]
    exact .cons plain given
  · rw [Node.holdings_cons, ← Node.holdings_append]
    exact same.cons _

end Gains

theorem connectiveKind_plain (symbol : Connective) : '-' ∉ (connectiveKind symbol).toList := by
  cases symbol <;> simp [connectiveKind]

namespace Joined

variable {parent : String} {number next : Nat} {nodes children : List Node}

/-- The children of a group name it as their parent. -/
theorem parents (joined : Joined parent number nodes children next) :
    ∀ child ∈ children, child.label.parent = some parent := by
  induction joined with
  | nil => exact nofun
  | single node => simp
  | apart _ _ ih => exact List.forall_mem_cons.mpr ⟨by simp, ih⟩
  | between _ _ ih => exact List.forall_mem_cons.mpr ⟨by simp, List.forall_mem_cons.mpr ⟨rfl, ih⟩⟩

/-- The children are the nodes and the `&&`s put between them, and below the nodes nothing changes. -/
theorem gains (joined : Joined parent number nodes children next) : Gains number nodes children next := by
  induction joined with
  | nil => exact .of_perm (.refl _)
  | single node => exact (Gains.of_perm (.refl [])).withParent parent node
  | apart _ _ ih => exact ih.withParent parent _
  | @between number next left right rest children _ _ ih =>
      have implied : Gains number (right :: rest) (impliedAnd parent number :: children) next :=
        .cons (connectiveKind_plain .and) rfl (Node.linked_nil _) ih
      exact implied.withParent parent left

end Joined

/-! ### Calls -/

/-- A call of the builder that makes a node under a new id. -/
inductive Call where
  | comparison (field : String) (operator : Operator) (value : Scalar)
  | connective (symbol : Connective)
  | group (items : List Item)

/-- What a call makes. -/
def Call.build : Call → Builder Node
  | .comparison field operator value => Builder.comparison field operator value
  | .connective symbol => Builder.connective symbol
  | .group items => Builder.group items

/-- The nodes that a call puts into a group. -/
def Call.placed : Call → List Node
  | .group items => items.flatMap Item.nodes
  | _ => []

/-- A call makes a node without a parent, which holds what the nodes placed in it held, and gains the ids that the
    call draws. -/
theorem Call.makes (call : Call) (number : Nat) :
    (call.build.run number).1.label.parent = none ∧
      Gains number call.placed [(call.build.run number).1] (call.build.run number).2 := by
  cases call with
  | comparison field operator value =>
      have plain : '-' ∉ "cmp".toList := by simp
      exact ⟨rfl, .cons plain rfl (Node.linked_nil _) (.of_perm (.refl _))⟩
  | connective symbol =>
      exact ⟨rfl, .cons (connectiveKind_plain symbol) rfl (Node.linked_nil _) (.of_perm (.refl _))⟩
  | group items =>
      obtain ⟨children, next, made, joined⟩ := group_run items number
      rw [Call.build, made]
      have plain : '-' ∉ "group".toList := by simp
      refine ⟨rfl, .cons plain rfl joined.parents ?_⟩
      rw [List.append_nil]
      exact joined.gains

/-! ### Runs -/

/-- What a run of the builder has so far: the next number, and the trees that it has made and placed nowhere. -/
structure Bench where
  number : Nat
  trees : List Node

namespace Bench

/-- The bench before any call. -/
def start : Bench := ⟨firstNumber, []⟩

/-- How many ids have been drawn. -/
def drawn (bench : Bench) : Nat :=
  bench.number - firstNumber

/-- The bench behind a call, which leaves others of the trees where they are. -/
def put (bench : Bench) (call : Call) (others : List Node) : Bench :=
  ⟨(call.build.run bench.number).2, (call.build.run bench.number).1 :: others⟩

end Bench

/-- Runs of the builder. The nodes that a call puts into its group are taken off the bench, in any order, so
    that no node is ever placed twice. -/
inductive Run : List Call → Bench → Prop where
  | start : Run [] .start
  | call {calls : List Call} {bench : Bench} (call : Call) (others : List Node) (before : Run calls bench)
      (held : bench.trees.Perm (call.placed ++ others)) : Run (calls ++ [call]) (bench.put call others)

/-- All that the trees on a bench hold has been gained since the first call, and no tree has a parent. -/
structure Bench.Sound (bench : Bench) : Prop where
  gains : Gains firstNumber [] bench.trees bench.number
  roots : ∀ tree ∈ bench.trees, tree.label.parent = none

theorem Bench.start_sound : Bench.start.Sound where
  gains := .of_perm (.refl _)
  roots := nofun

/-- A call keeps the bench sound. -/
theorem Bench.Sound.put {bench : Bench} (sound : bench.Sound) (call : Call) {others : List Node}
    (held : bench.trees.Perm (call.placed ++ others)) : (bench.put call others).Sound := by
  obtain ⟨root, gains⟩ := call.makes bench.number
  refine ⟨?_, List.forall_mem_cons.mpr ⟨root, fun tree htree => ?_⟩⟩
  · exact sound.gains.trans ((Gains.of_perm held.symm).trans (gains.beside others))
  · exact sound.roots tree (held.mem_iff.mpr (List.mem_append_right _ htree))

/-- Every run leaves a sound bench. -/
theorem Run.sound {calls : List Call} {bench : Bench} (run : Run calls bench) : bench.Sound := by
  induction run with
  | start => exact Bench.start_sound
  | call call others before held ih => exact ih.put call held

/-- Trees of the builder, behind any run of fewer than `2 ^ 64` ids in which no node is placed twice: all nodes at
    all depths have different ids, every child has the id of the group around it as its parent, and a node that
    is in no group has no parent. -/
theorem ids_distinct_and_linked {calls : List Call} {bench : Bench} (run : Run calls bench)
    (few : bench.drawn < 2 ^ 64) :
    ((bench.trees.flatMap Node.members).map fun node => node.label.id).Nodup ∧
      (∀ node ∈ bench.trees.flatMap Node.members, ∀ child ∈ node.children,
        child.label.parent = some node.label.id) ∧
      ∀ tree ∈ bench.trees, tree.label.parent = none := by
  obtain ⟨⟨gained, given, linked, same⟩, roots⟩ := run.sound
  have last : bench.number ≤ UInt64.size := by
    rw [Bench.drawn, firstNumber] at few
    rw [UInt64.size]
    omega
  have distinct : ((Node.holdings bench.trees).map Prod.fst).Nodup :=
    (same.map Prod.fst).nodup_iff.mpr (by simpa [Node.holdings] using given.nodup last)
  refine ⟨?_, fun node hnode => ?_, roots⟩
  · rw [Node.holdings, List.map_map] at distinct
    exact distinct
  · have held : (node.label.id, node.children) ∈ gained ++ Node.holdings [] :=
      same.mem_iff.mp (List.mem_map_of_mem hnode)
    exact linked _ ((List.mem_append.mp held).resolve_right nofun)

/-- Two comparisons are grouped, which draws an id for the `&&` between them, and the group is negated inside
    another. -/
theorem ids_distinct_and_linked_of_nested :
    let one := Bench.start.put (.comparison "a" .equals (.bool true)) []
    let two := one.put (.comparison "b" .isEmpty .undefined) one.trees
    let three := two.put (.group [.run two.trees]) []
    let four := three.put (.connective .not) three.trees
    let five := four.put (.group (four.trees.map .node)) []
    let ids := (five.trees.flatMap Node.members).map fun node => node.label.id
    (∃ calls, Run calls five) ∧ five.drawn < 2 ^ 64 ∧
      ids = [idOf "group" 6, idOf "not" 5, idOf "group" 3, idOf "cmp" 2, idOf "and" 4, idOf "cmp" 1] ∧
      ids.Nodup := by
  intro one two three four five ids
  have first : Run _ one := .call _ _ .start (.refl _)
  have second : Run _ two := .call _ _ first (.refl _)
  have third : Run _ three := .call _ _ second (.refl _)
  have fourth : Run _ four := .call _ _ third (.refl _)
  have fifth : Run _ five := .call _ _ fourth (.refl _)
  have few : five.drawn < 2 ^ 64 := by decide
  exact ⟨⟨_, fifth⟩, few, rfl, (ids_distinct_and_linked fifth few).1⟩

end Builder

end FilterTree
