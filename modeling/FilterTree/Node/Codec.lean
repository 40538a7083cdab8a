/-
Module: FilterTree.Node.Codec
Layer: Tree
Purpose: Filter trees as values of documents, in both directions. A node is a mapping with its id, its parent
  if it has one, its type and the fields of that type; an undefined value is left out. Reading takes the
  fields in any order, passes over unknown ones and reports the first fault: those of the id and the parent,
  then those of the type, then those of the type's fields. Tags count only on and in the values of these fields
  and of unknown ones, where none may stand.
Imports: FilterTree.Node, FilterTree.Mismatch
Main exports: Node.toValue, Node.listToValue, Operator.read, Node.ofValue, Node.ofTopValue, Node.listOfValue
-/
import FilterTree.Node
import FilterTree.Mismatch

namespace FilterTree

/-!
### Writing
-/

/-- The entries that every node begins with. -/
def Label.entries (label : Label) : List (Value × Value) :=
  (.text "id", .text label.id) ::
    match label.parent with
    | some parent => [(.text "parentId", .text parent)]
    | none => []

/-- The entry of the value of a comparison; an undefined one has none. -/
def Scalar.entries : Scalar → List (Value × Value)
  | .undefined => []
  | scalar => [(.text "value", scalar.toValue)]

/-- The entries of a comparison. -/
def Comparison.entries (comparison : Comparison) : List (Value × Value) :=
  [(.text "type", .text "comparison"), (.text "field", .text comparison.field),
    (.text "operator", .text comparison.operator.name)] ++ comparison.value.entries

namespace Node

mutual

/-- A node as a value. -/
def toValue : Node → Value
  | .comparison label c => .map (label.entries ++ c.entries)
  | .connective label c =>
    .map (label.entries ++ [(.text "type", .text "logicalConnector"), (.text "operator", .text c.symbol)])
  | .group label children =>
    .map (label.entries ++ [(.text "type", .text "group"), (.text "children", .list (toValues children))])

/-- Nodes as values. -/
def toValues : List Node → List Value
  | [] => []
  | node :: rest => toValue node :: toValues rest

end

/-- A list of nodes as one value. -/
def listToValue (nodes : List Node) : Value :=
  .list (toValues nodes)

end Node

/-!
### Reading names

A member of a closed list is given by its name or by its number in the list. Inside a node the name may stand
alone, and name or number may be the only key of a mapping whose value is empty.
-/

/-- The member of a closed list with a given name. -/
def readName {α : Type} (all : List α) (nameOf : α → String) (name : String) : Except Mismatch α :=
  match all.find? fun member => nameOf member == name with
  | some member => .ok member
  | none => .error (.unknownVariant name (all.map nameOf))

/-- Whether a value stands for nothing: null, or a mapping without entries. -/
def Value.isEmptyUnit : Value → Bool
  | .null => true
  | .map [] => true
  | _ => false

/-- The member of a closed list with a given name or number. -/
def readVariant {α : Type} (all : List α) (nameOf : α → String) : Value → Except Mismatch α
  | .text name => readName all nameOf name
  | .int number =>
    if number < 0 then .error (.invalidType (.int number) "variant identifier")
    else match all[number.toNat]? with
      | some member => .ok member
      | none => .error (.invalidValue (.int number) ("variant index 0 <= i < " ++ toString all.length))
  | value => .error (.invalidType value.found "variant identifier")

/-- Reads a member of a closed list inside a node. -/
def readMember {α : Type} (all : List α) (nameOf : α → String) : Value → Except Mismatch α
  | .text name => readName all nameOf name
  | .map [(key, value)] => do
    let member ← readVariant all nameOf key
    if value.isEmptyUnit then .ok member else .error (.invalidType value.found "unit")
  | .map _ => .error (.invalidValue .map "map with a single key")
  | value => .error (.invalidType value.found "string or map")

/-- Reads the name of an operator that stands alone. -/
def Operator.read : Value → Except Mismatch Operator
  | .text name => readName Operator.all Operator.name name
  | value => .error (.invalidType value.found "a Value::Tagged enum")

/-!
### Reading nodes
-/

namespace Node

/-- The three types of nodes. -/
inductive Kind where
  | comparison
  | connective
  | group
deriving DecidableEq, Repr

/-- Every type, each once, in the order of their numbers. -/
def Kind.all : List Kind := [.comparison, .connective, .group]

/-- The name of a type in documents. -/
def Kind.name : Kind → String
  | .comparison => "comparison"
  | .connective => "logicalConnector"
  | .group => "group"

/-- Reads a type, given by its name or its number. -/
def Kind.read (value : Value) : Except Mismatch Kind :=
  readVariant Kind.all Kind.name value

/-- The names of the fields of a type, in the order of their numbers. -/
def Kind.fields : Kind → List String
  | .comparison => ["field", "operator", "value"]
  | .connective => ["operator"]
  | .group => ["children"]

/-- An entry of a mapping under reading, with what its value reads as when nodes are wanted there. -/
structure Entry where
  key : Value
  value : Value
  nodes : Except Mismatch (List Node)

/-- Whether a value may be a key: a text, or inside a group also a whole number. -/
def isKey (inGroup : Bool) : Value → Bool
  | .text _ => true
  | .int number => inGroup && decide (0 ≤ number)
  | _ => false

/-- Takes the id and the parent out of the entries, in their order, and leaves the others, on and in whose values
    no tag may stand. Tags on keys do not count. -/
def readLabel (inGroup : Bool) (id : Option String) (parent : Option (Option String)) :
    List Entry → Except Mismatch (Label × List Entry)
  | [] =>
    match id with
    | some id => .ok (⟨id, parent.getD none⟩, [])
    | none => .error (.missingField "id")
  | entry :: rest =>
    match entry.key.untagged with
    | .text "id" =>
      if id.isSome then .error (.duplicateField "id")
      else do
        let id ← entry.value.readText
        readLabel inGroup (some id) parent rest
    | .text "parentId" =>
      if parent.isSome then .error (.duplicateField "parentId")
      else do
        let parent ← entry.value.readTextOrNull
        readLabel inGroup id (some parent) rest
    | key =>
      if !isKey inGroup key then .error (.invalidType key.found "field identifier")
      else if !entry.value.isBare then .error .taggedPart
      else do
        let (label, others) ← readLabel inGroup id parent rest
        .ok (label, { entry with key := key } :: others)

/-- Takes the type out of the entries and leaves the others. -/
def readKind (kind : Option Kind) : List Entry → Except Mismatch (Kind × List Entry)
  | [] =>
    match kind with
    | some kind => .ok (kind, [])
    | none => .error (.missingField "type")
  | entry :: rest =>
    match entry.key with
    | .text "type" => do
      if kind.isSome then .error (.duplicateField "type")
      else
        let kind ← Kind.read entry.value
        readKind (some kind) rest
    | _ => do
      let (kind, others) ← readKind kind rest
      .ok (kind, entry :: others)

/-- The place among the fields of a type that a key stands for: by name, or by number. -/
def fieldIndex? (kind : Kind) : Value → Option Nat
  | .text name => kind.fields.findIdx? (· == name)
  | .int number => if 0 ≤ number ∧ number < kind.fields.length then some number.toNat else none
  | _ => none

/-- The fields of a node while they are read. -/
structure Fields where
  field : Option String := none
  operator : Option Operator := none
  connective : Option Connective := none
  value : Option Scalar := none
  children : Option (List Node) := none

/-- Reads one field of a type into its slot. -/
def Fields.put (fields : Fields) (kind : Kind) (index : Nat) (entry : Entry) : Except Mismatch Fields :=
  let fresh (taken : Bool) (read : Except Mismatch Fields) : Except Mismatch Fields :=
    if taken then .error (.duplicateField (kind.fields.getD index "")) else read
  match kind, index with
  | .comparison, 0 =>
    fresh fields.field.isSome (entry.value.readText.map fun field => { fields with field := some field })
  | .comparison, 1 =>
    fresh fields.operator.isSome
      ((readMember Operator.all Operator.name entry.value).map fun operator =>
        { fields with operator := some operator })
  | .comparison, _ =>
    fresh fields.value.isSome (entry.value.readScalar.map fun value => { fields with value := some value })
  | .connective, _ =>
    fresh fields.connective.isSome
      ((readMember Connective.all Connective.symbol entry.value).map fun connective =>
        { fields with connective := some connective })
  | .group, _ =>
    fresh fields.children.isSome (entry.nodes.map fun children => { fields with children := some children })

/-- Reads the fields of a type, in the order of the entries. -/
def readFields (kind : Kind) (fields : Fields) : List Entry → Except Mismatch Fields
  | [] => .ok fields
  | entry :: rest =>
    match fieldIndex? kind entry.key with
    | some index => do
      let fields ← fields.put kind index entry
      readFields kind fields rest
    | none => readFields kind fields rest

/-- A field that has to be there. -/
def required {α : Type} (name : String) : Option α → Except Mismatch α
  | some value => .ok value
  | none => .error (.missingField name)

/-- The node of a type with given fields. -/
def ofFields (label : Label) (fields : Fields) : Kind → Except Mismatch Node
  | .comparison => do
    let field ← required "field" fields.field
    let operator ← required "operator" fields.operator
    .ok (.comparison label ⟨field, operator, fields.value.getD .undefined⟩)
  | .connective => do
    let connective ← required "operator" fields.connective
    .ok (.connective label connective)
  | .group => .ok (.group label (fields.children.getD []))

/-- The node that a list of entries describes, inside a group or at the top. -/
def ofEntries (inGroup : Bool) (entries : List Entry) : Except Mismatch Node := do
  let (label, others) ← readLabel inGroup none none entries
  let (kind, others) ← readKind none others
  let fields ← readFields kind {} others
  ofFields label fields kind

mutual

/-- Reads a node of a group. -/
def ofValue : Value → Except Mismatch Node
  | .map entries => ofEntries true (entriesOf entries)
  | value => .error (.invalidType value.found "struct FilterNode")

/-- Reads the children of a group. -/
def childrenOf : Value → Except Mismatch (List Node)
  | .list items => ofValues items
  | value => .error (.invalidType value.found "a sequence")

/-- Reads nodes up to the first fault. -/
def ofValues : List Value → Except Mismatch (List Node)
  | [] => .ok []
  | value :: rest => do
    let node ← ofValue value
    let nodes ← ofValues rest
    .ok (node :: nodes)

/-- Prepares the entries of a mapping for reading. -/
def entriesOf : List (Value × Value) → List Entry
  | [] => []
  | (key, value) :: rest => ⟨key, value, childrenOf value⟩ :: entriesOf rest

end

/-- Reads a node at the top of a document. Tags on it do not count, and a null stands for a mapping without
    entries. -/
def ofTopValue (value : Value) : Except Mismatch Node :=
  match value.untagged with
  | .null => ofEntries false []
  | .map entries => ofEntries false (entriesOf entries)
  | value => .error (.invalidType value.found "struct FilterNode")

/-- Reads a filter tree, the list of its top nodes. Tags on it do not count, and a null stands for no nodes. -/
def listOfValue (value : Value) : Except Mismatch (List Node) :=
  match value.untagged with
  | .null => .ok []
  | .list items => items.mapM ofTopValue
  | value => .error (.invalidType value.found "a sequence")

end Node

end FilterTree
