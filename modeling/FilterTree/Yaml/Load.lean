/-
Module: FilterTree.Yaml.Load
Layer: Yaml
Purpose: Values from YAML texts. The standard tags force a reading of a scalar or make it a text; tags with a
  leading exclamation mark stay on the value; other tags do not count. No key may stand twice in a mapping.
Imports: FilterTree.Yaml.Tree, FilterTree.Yaml.Plain
Main exports: Value.same, Yaml.scalarValue?, Yaml.value?, Yaml.load?
-/
import FilterTree.Yaml.Tree
import FilterTree.Yaml.Plain

namespace FilterTree

/-!
### Equal keys
-/

/-- Equality of numbers as keys: like that of values, but what is no number equals itself. -/
def Number.sameKey (a b : Number) : Bool :=
  a.same b || (a == .nan && b == .nan)

namespace Value

mutual

/-- Equality of values as keys. The order of the entries of a mapping does not count. -/
def same : Value → Value → Bool
  | .null, .null => true
  | .bool a, .bool b => a == b
  | .int a, .int b => a == b
  | .float a, .float b => a.sameKey b
  | .text a, .text b => a == b
  | .list a, .list b => sameItems a b
  | .map a, .map b => a.length == b.length && sameEntries a b
  | .tagged s a, .tagged t b => s == t && same a b
  | _, _ => false

/-- Equality of lists, item by item. -/
def sameItems : List Value → List Value → Bool
  | [], [] => true
  | a :: as, b :: bs => same a b && sameItems as bs
  | _, _ => false

/-- Whether each entry of the first list is among those of the second. -/
def sameEntries : List (Value × Value) → List (Value × Value) → Bool
  | [], _ => true
  | (key, value) :: rest, entries =>
    (entries.any fun other => same key other.1 && same value other.2) && sameEntries rest entries

end

/-- Whether a key stands twice in a list of entries. -/
def repeatsKey : List (Value × Value) → Bool
  | [] => false
  | (key, _) :: rest => (rest.any fun other => same key other.1) || repeatsKey rest

end Value

namespace Yaml

/-!
### Tags
-/

/-- A scalar under the standard tag of a kind. -/
def forced? (kind : Tag) (text : List Char) : Option Value :=
  if kind = Tag.ofText "bool" then (bool? text).map .bool
  else if kind = Tag.ofText "int" then (intValue? text).bind id
  else if kind = Tag.ofText "float" then (float? text).map .float
  else if kind = Tag.ofText "null" then (if isNull text then some .null else none)
  else some (.text (String.ofList text))

/-- What a scalar stands for, apart from a tag that stays on it. Unknown tags make it a text. -/
def scalarValue? (tag : Option Tag) (plain : Bool) (text : List Char) : Option Value :=
  match tag.filter fun tag => !tag.isLocal with
  | some tag => forced? (tag.kind?.getD []) text
  | none => if plain then plainValue? text else some (.text (String.ofList text))

/-- A value under its tag, if the tag stays. -/
def withTag (tag : Option Tag) (value : Value) : Value :=
  match localName? tag with
  | none => value
  | some name => .tagged name value

/-!
### Values
-/

mutual

/-- The value of a node. -/
def value? : Tree → Option Value
  | .scalar tag plain text => (scalarValue? tag plain text).map (withTag tag)
  | .sequence tag items => do some (withTag tag (.list (← values? items)))
  | .mapping tag entries => do
    let entries ← entries? entries
    if Value.repeatsKey entries then none else some (withTag tag (.map entries))

/-- The values of several nodes. -/
def values? : List Tree → Option (List Value)
  | [] => some []
  | item :: rest => do some ((← value? item) :: (← values? rest))

/-- The values of the entries of a mapping. -/
def entries? : List (Tree × Tree) → Option (List (Value × Value))
  | [] => some []
  | (key, value) :: rest => do some ((← value? key, ← value? value) :: (← entries? rest))

end

/-- The value that a text describes; a text with nothing in it describes null. -/
def load? (text : String) : Option Value := do
  match ← Tree.ofText? text.toList with
  | none => some .null
  | some tree => value? tree

/-- The scalar that a text describes. -/
def loadScalar? (text : String) : Option Value := do
  match ← Tree.ofText? text.toList with
  | none => some .null
  | some (.scalar tag plain text) =>
    if (localName? tag).isSome then none else scalarValue? tag plain text
  | some _ => none

end Yaml

end FilterTree
