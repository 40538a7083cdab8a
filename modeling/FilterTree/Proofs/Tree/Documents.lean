/-
Module: FilterTree.Proofs.Tree.Documents
Layer: Proofs
Purpose: Filter trees as values of documents. What is written of a tree reads as the tree, at the top and inside
  groups: the id, the parent if there is one, the type, and the fields of the type. A value that is left out is
  undefined and one that is written as null is null, so the two stay apart.
Imports: FilterTree.Node.Codec
Main exports: readName_nameOf, Node.ofEntries_written, Node.ofValue_toValue, Node.listOfValue_listToValue,
  Node.tree_reads_back
-/
import FilterTree.Node.Codec

namespace FilterTree

/-! ### Names -/

/-- A member of a closed list is found by its name when no two members share one. -/
theorem readName_nameOf {α : Type} {all : List α} {nameOf : α → String} (distinct : (all.map nameOf).Nodup)
    {member : α} (known : member ∈ all) : readName all nameOf (nameOf member) = .ok member := by
  have found : all.find? (fun other => nameOf other == nameOf member) = some member := by
    induction all with
    | nil => cases known
    | cons first rest ih =>
        rw [List.map_cons, List.nodup_cons] at distinct
        rcases List.mem_cons.mp known with rfl | known
        · rw [List.find?_cons_of_pos (by simp)]
        · have apart : nameOf first ≠ nameOf member := by
            intro same
            exact distinct.1 (same ▸ List.mem_map_of_mem known)
          rw [List.find?_cons_of_neg (by simpa using apart)]
          exact ih distinct.2 known
  rw [readName, found]

theorem readMember_operator (operator : Operator) :
    readMember Operator.all Operator.name (.text operator.name) = .ok operator := by
  apply readName_nameOf
  · decide
  · cases operator <;> decide

theorem readMember_connective (connective : Connective) :
    readMember Connective.all Connective.symbol (.text connective.symbol) = .ok connective := by
  apply readName_nameOf
  · decide
  · cases connective <;> decide

theorem Node.Kind.read_name (kind : Node.Kind) : Node.Kind.read (.text kind.name) = .ok kind := by
  apply readName_nameOf
  · decide
  · cases kind <;> decide

namespace Node

/-! ### What is written bears no tag -/

mutual

/-- No tag stands in what is written of a node. -/
theorem isBare_toValue : ∀ node : Node, node.toValue.isBare = true
  | .comparison ⟨_, parent⟩ ⟨_, _, value⟩ => by cases parent <;> cases value <;> rfl
  | .connective ⟨_, parent⟩ _ => by cases parent <;> rfl
  | .group ⟨_, parent⟩ children => by
      cases parent <;> simp [toValue, Label.entries, Value.isBare, Value.entriesBare, areBare_toValues children]

/-- No tag stands in what is written of nodes. -/
theorem areBare_toValues : ∀ nodes : List Node, Value.areBare (toValues nodes) = true
  | [] => rfl
  | node :: rest => by
      rw [toValues, Value.areBare, isBare_toValue node, areBare_toValues rest]
      rfl

end

/-! ### Reading entries -/

theorem entriesOf_append (first second : List (Value × Value)) :
    entriesOf (first ++ second) = entriesOf first ++ entriesOf second := by
  induction first with
  | nil => rfl
  | cons entry rest ih =>
      obtain ⟨key, value⟩ := entry
      rw [List.cons_append, entriesOf, ih, entriesOf, List.cons_append]

/-- An entry under a text that is none of some names, with a value that bears no tag. -/
def Entry.Apart (names : List String) (entry : Entry) : Prop :=
  ∃ name, entry.key = .text name ∧ name ∉ names ∧ entry.value.isBare = true

/-- Entries that are neither id nor parent are left by a label. -/
theorem readLabel_apart (inGroup : Bool) (id : String) (parent : Option (Option String)) {others : List Entry}
    (apart : ∀ entry ∈ others, entry.Apart ["id", "parentId"]) :
    readLabel inGroup (some id) parent others = .ok (⟨id, parent.getD none⟩, others) := by
  induction others with
  | nil => rfl
  | cons entry rest ih =>
      rw [List.forall_mem_cons] at apart
      obtain ⟨⟨name, hkey, hname, hbare⟩, apart⟩ := apart
      obtain ⟨key, value, nodes⟩ := entry
      obtain rfl : key = .text name := hkey
      have bare : value.isBare = true := hbare
      simp only [List.mem_cons, List.not_mem_nil, or_false, not_or] at hname
      simp [readLabel, Value.untagged, isKey, bare, ih apart, hname, bind, Except.bind]

/-- A label reads back in front of such entries. -/
theorem readLabel_written (inGroup : Bool) (label : Label) {others : List Entry}
    (apart : ∀ entry ∈ others, entry.Apart ["id", "parentId"]) :
    readLabel inGroup none none (entriesOf label.entries ++ others) = .ok (label, others) := by
  obtain ⟨id, parent⟩ := label
  cases parent with
  | none => exact readLabel_apart inGroup id none apart
  | some parent => exact readLabel_apart inGroup id (some (some parent)) apart

/-- Entries that are no type are left by a type. -/
theorem readKind_apart (kind : Kind) {others : List Entry} (apart : ∀ entry ∈ others, entry.Apart ["type"]) :
    readKind (some kind) others = .ok (kind, others) := by
  induction others with
  | nil => rfl
  | cons entry rest ih =>
      rw [List.forall_mem_cons] at apart
      obtain ⟨⟨name, hkey, hname, -⟩, apart⟩ := apart
      obtain ⟨key, value, nodes⟩ := entry
      obtain rfl : key = .text name := hkey
      rw [List.mem_singleton] at hname
      simp [readKind, ih apart, hname, bind, Except.bind]

/-- A type reads back in front of such entries. -/
theorem readKind_written (kind : Kind) (nodes : Except Mismatch (List Node)) {others : List Entry}
    (apart : ∀ entry ∈ others, entry.Apart ["type"]) :
    readKind none (⟨.text "type", .text kind.name, nodes⟩ :: others) = .ok (kind, others) := by
  have typed : readKind none (⟨.text "type", .text kind.name, nodes⟩ :: others) =
      (Kind.read (.text kind.name)).bind fun kind => readKind (some kind) others := rfl
  rw [typed, Kind.read_name]
  exact readKind_apart kind apart

/-- What a node is made of when its label, its type and the fields of its type are written one behind the other. -/
theorem ofEntries_written (inGroup : Bool) (label : Label) (kind : Kind) {fields : List (Value × Value)}
    (apart : ∀ entry ∈ entriesOf fields, entry.Apart ["id", "parentId", "type"]) :
    ofEntries inGroup (entriesOf (label.entries ++ (.text "type", .text kind.name) :: fields)) =
      (readFields kind {} (entriesOf fields)).bind fun fields => ofFields label fields kind := by
  have behindLabel : ∀ entry ∈ entriesOf ((.text "type", .text kind.name) :: fields),
      entry.Apart ["id", "parentId"] := by
    rw [entriesOf, List.forall_mem_cons]
    refine ⟨⟨"type", rfl, by decide, rfl⟩, fun entry hentry => ?_⟩
    obtain ⟨name, hkey, hname, hbare⟩ := apart entry hentry
    exact ⟨name, hkey, fun found => hname (List.mem_append_left ["type"] found), hbare⟩
  have behindType : ∀ entry ∈ entriesOf fields, entry.Apart ["type"] := by
    intro entry hentry
    obtain ⟨name, hkey, hname, hbare⟩ := apart entry hentry
    exact ⟨name, hkey, fun found => hname (List.mem_append_right ["id", "parentId"] found), hbare⟩
  rw [ofEntries, entriesOf_append, readLabel_written inGroup label behindLabel]
  show (readKind none (⟨.text "type", .text kind.name, _⟩ :: entriesOf fields)).bind _ = _
  rw [readKind_written kind _ behindType]
  rfl

/-- An entry that stands for a field of the type is put into its slot. -/
theorem readFields_cons {kind : Kind} {fields next : Fields} {entry : Entry} {rest : List Entry} {index : Nat}
    (place : fieldIndex? kind entry.key = some index) (put : fields.put kind index entry = .ok next) :
    readFields kind fields (entry :: rest) = readFields kind next rest := by
  simp only [readFields, place, put]
  rfl

/-! ### Reading nodes -/

/-- The value of a comparison reads back: one that is left out is undefined, and only that one is left out. -/
theorem readFields_value (field : String) (operator : Operator) (value : Scalar) :
    ∃ read, readFields .comparison { field := some field, operator := some operator }
        (entriesOf value.entries) =
          .ok { field := some field, operator := some operator, value := read } ∧
      read.getD .undefined = value := by
  cases value with
  | undefined => exact ⟨none, rfl, rfl⟩
  | text | number | bool | null => exact ⟨some _, rfl, rfl⟩

/-- A comparison reads back. -/
theorem ofEntries_comparison (inGroup : Bool) (label : Label) (comparison : Comparison) :
    ofEntries inGroup (entriesOf (label.entries ++ comparison.entries)) = .ok (.comparison label comparison) := by
  obtain ⟨field, operator, value⟩ := comparison
  have apart : ∀ entry ∈ entriesOf ((.text "field", .text field) :: (.text "operator", .text operator.name) ::
      value.entries), entry.Apart ["id", "parentId", "type"] := by
    cases value <;> simp [entriesOf, Entry.Apart, Scalar.entries, Scalar.toValue, Value.isBare]
  have fieldPut : Fields.put {} .comparison 0 ⟨.text "field", .text field, childrenOf (.text field)⟩ =
      .ok { field := some field } := rfl
  have operatorPut : Fields.put { field := some field } .comparison 1
      ⟨.text "operator", .text operator.name, childrenOf (.text operator.name)⟩ =
      .ok { field := some field, operator := some operator } := by
    simp only [Fields.put, readMember_operator]
    rfl
  obtain ⟨read, hread, hvalue⟩ := readFields_value field operator value
  refine (ofEntries_written inGroup label .comparison apart).trans ?_
  rw [entriesOf, readFields_cons rfl fieldPut, entriesOf, readFields_cons rfl operatorPut, hread, ← hvalue]
  rfl

/-- A connective reads back. -/
theorem ofEntries_connective (inGroup : Bool) (label : Label) (connective : Connective) :
    ofEntries inGroup (entriesOf (label.entries ++
      [(.text "type", .text "logicalConnector"), (.text "operator", .text connective.symbol)])) =
        .ok (.connective label connective) := by
  have apart : ∀ entry ∈ entriesOf [(.text "operator", .text connective.symbol)],
      entry.Apart ["id", "parentId", "type"] := by
    simp [entriesOf, Entry.Apart, Value.isBare]
  have put : Fields.put {} .connective 0
      ⟨.text "operator", .text connective.symbol, childrenOf (.text connective.symbol)⟩ =
      .ok { connective := some connective } := by
    simp only [Fields.put, readMember_connective]
    rfl
  refine (ofEntries_written inGroup label .connective apart).trans ?_
  rw [entriesOf, readFields_cons rfl put]
  rfl

/-- A group reads back when its children do. -/
theorem ofEntries_group (inGroup : Bool) (label : Label) {children : List Node}
    (inside : ofValues (toValues children) = .ok children) :
    ofEntries inGroup (entriesOf (label.entries ++
      [(.text "type", .text "group"), (.text "children", .list (toValues children))])) =
        .ok (.group label children) := by
  have apart : ∀ entry ∈ entriesOf [(.text "children", .list (toValues children))],
      entry.Apart ["id", "parentId", "type"] := by
    simp [entriesOf, Entry.Apart, Value.isBare, areBare_toValues]
  have put : Fields.put {} .group 0
      ⟨.text "children", .list (toValues children), childrenOf (.list (toValues children))⟩ =
      .ok { children := some children } := by
    simp only [Fields.put, childrenOf, inside]
    rfl
  refine (ofEntries_written inGroup label .group apart).trans ?_
  rw [entriesOf, readFields_cons rfl put]
  rfl

mutual

/-- A node inside a group reads back. -/
theorem ofValue_toValue : ∀ node : Node, ofValue node.toValue = .ok node
  | .comparison label c => ofEntries_comparison true label c
  | .connective label c => ofEntries_connective true label c
  | .group label children => ofEntries_group true label (ofValues_toValues children)

/-- The nodes of a group read back. -/
theorem ofValues_toValues : ∀ nodes : List Node, ofValues (toValues nodes) = .ok nodes
  | [] => rfl
  | node :: rest => by
      rw [toValues, ofValues, ofValue_toValue node, ofValues_toValues rest]
      rfl

end

/-- A node at the top reads back. -/
theorem ofTopValue_toValue (node : Node) : ofTopValue node.toValue = .ok node := by
  cases node with
  | comparison label c => exact ofEntries_comparison false label c
  | connective label c => exact ofEntries_connective false label c
  | group label children => exact ofEntries_group false label (ofValues_toValues children)

/-- A filter tree reads back from what is written of it. -/
theorem listOfValue_listToValue (nodes : List Node) : listOfValue (listToValue nodes) = .ok nodes := by
  show (toValues nodes).mapM ofTopValue = .ok nodes
  induction nodes with
  | nil => rfl
  | cons node rest ih =>
      rw [toValues, List.mapM_cons, ofTopValue_toValue node, ih]
      rfl

/-- Nothing of a filter tree is lost in a document. Every tree reads back from what is written of it, with its
    labels, empty groups, connectives, numbers, and values that are null or undefined. And whatever reads as a
    tree, in whichever way it says so, reads as the same tree when that is written again. -/
theorem tree_reads_back :
    (∀ nodes : List Node, listOfValue (listToValue nodes) = .ok nodes) ∧
      ∀ (value : Value) (nodes : List Node), listOfValue value = .ok nodes →
        listOfValue (listToValue nodes) = .ok nodes :=
  ⟨listOfValue_listToValue, fun _ nodes _ => listOfValue_listToValue nodes⟩

/-- Types by number, keys that are not known, a parent that is null, a whole number, children and a value that
    are left out, tags at the top. -/
theorem tree_reads_back_of_loose :
    let value : Value := .tagged "tree" (.list [
      .map [(.text "type", .int 2), (.text "id", .tagged "id" (.text "g")), (.text "parentId", .null)],
      .map [(.text "id", .text "h"), (.text "type", .text "group"), (.text "note", .list [.int 7]),
        (.text "children", .list [
          .map [(.text "type", .int 0), (.text "value", .int 18), (.text "field", .text "age"),
            (.text "operator", .text "GreaterThan"), (.text "id", .text "c"), (.int 5, .null)],
          .map [(.text "id", .text "d"), (.text "type", .text "comparison"), (.text "field", .text "name"),
            (.text "operator", .map [(.text "IsUndefined", .null)])],
          .map [(.text "id", .text "e"), (.text "type", .text "comparison"), (.text "field", .text "name"),
            (.text "operator", .text "IsNull"), (.text "value", .null)]])]])
    let nodes : List Node := [.group ⟨"g", none⟩ [], .group ⟨"h", none⟩ [
      .comparison ⟨"c", none⟩ ⟨"age", .greaterThan, .number (.ofInt 18)⟩,
      .comparison ⟨"d", none⟩ ⟨"name", .isUndefined, .undefined⟩,
      .comparison ⟨"e", none⟩ ⟨"name", .isNull, .null⟩]]
    listOfValue value = .ok nodes ∧ listOfValue (listToValue nodes) = .ok nodes := by
  intro value nodes
  have read : listOfValue value = .ok nodes := rfl
  exact ⟨read, tree_reads_back.2 value nodes read⟩

end Node

end FilterTree
