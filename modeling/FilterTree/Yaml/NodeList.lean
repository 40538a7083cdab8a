/-
Module: FilterTree.Yaml.NodeList
Layer: Yaml
Purpose: Filter trees from YAML texts. The list of top nodes is read in place: their keys and ids are taken as
  they are written, whatever they look like, and tags on the list and its nodes do not count. Everything else
  is resolved first and then read like any other value; a tag that would stay on a value is an error there,
  and keys may stand twice where nothing reads them.
Imports: FilterTree.Yaml.Load, FilterTree.Node.Codec
Main exports: Yaml.content?, Yaml.topValue?, Node.listOfYaml?
-/
import FilterTree.Yaml.Load
import FilterTree.Node.Codec

namespace FilterTree

namespace Yaml

/-- The value of a scalar without a tag that stays. Whole numbers with a minus never number a type or a field,
    so a zero with a minus is taken for a plain number, not for a whole one. -/
def scalarContent? (tag : Option Tag) (plain : Bool) (text : List Char) : Option Value :=
  if (localName? tag).isSome then none
  else
    match scalarValue? tag plain text with
    | some (.int 0) => some (if text.head? == some '-' then .float .zero else .int 0)
    | value => value

mutual

/-- The value of a node without tags that stay, with all entries of mappings kept. -/
def content? : Tree → Option Value
  | .scalar tag plain text => scalarContent? tag plain text
  | .sequence tag items => do
    if (localName? tag).isSome then none else some (.list (← contents? items))
  | .mapping tag entries => do
    if (localName? tag).isSome then none else some (.map (← contentEntries? entries))

/-- The values of several nodes. -/
def contents? : List Tree → Option (List Value)
  | [] => some []
  | item :: rest => do some ((← content? item) :: (← contents? rest))

/-- The values of the entries of a mapping. -/
def contentEntries? : List (Tree × Tree) → Option (List (Value × Value))
  | [] => some []
  | (key, value) :: rest => do some ((← content? key, ← content? value) :: (← contentEntries? rest))

end

/-- The text of a scalar as it is written. -/
def written? : Tree → Option String
  | .scalar _ _ text => some (String.ofList text)
  | _ => none

/-- The text of a scalar as it is written, or null where a plain scalar says so. -/
def writtenOrNull? : Tree → Option Value
  | .scalar tag plain text =>
    if plain && tag.bind Tag.kind? = some (Tag.ofText "null") then
      if isNull text then some .null else none
    else if plain && tag.isNone && (text.isEmpty || isNull text) then some .null
    else some (.text (String.ofList text))
  | _ => none

/-- An entry of a top node. -/
def topEntry? (key value : Tree) : Option (Value × Value) := do
  let key ← written? key
  let value ← match key with
    | "id" => (written? value).map Value.text
    | "parentId" => writtenOrNull? value
    | _ => content? value
  some (.text key, value)

/-- Whether nothing was written for a node. -/
def isLeftEmpty : Tree → Bool
  | .scalar _ true [] => true
  | _ => false

/-- A top node, ready to be read. -/
def topNode? (tree : Tree) : Option Value :=
  match tree with
  | .mapping _ entries => (entries.mapM fun (key, value) => topEntry? key value).map Value.map
  | tree => if isLeftEmpty tree then some .null else none

/-- The list of top nodes, ready to be read. -/
def topValue? : Option Tree → Option Value
  | none => some .null
  | some (.sequence _ items) => (items.mapM topNode?).map Value.list
  | some tree => if isLeftEmpty tree then some .null else none

end Yaml

/-- Reads a filter tree from a YAML text. -/
def Node.listOfYaml? (text : String) : Option (List Node) := do
  let value ← Yaml.topValue? (← Yaml.Tree.ofText? text.toList)
  (Node.listOfValue value).toOption

end FilterTree
