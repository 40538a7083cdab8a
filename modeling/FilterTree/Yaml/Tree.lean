/-
Module: FilterTree.Yaml.Tree
Layer: Yaml
Purpose: The trees that YAML texts describe: scalars with their text and style, sequences and mappings, each
  with its tag if it has one. An alias stands for the node under its anchor. A text holds at most one
  document; its collections are nested at most 128 deep, and its aliases stand for at most a hundred times as
  many nodes as it has events.
Imports: FilterTree.Yaml.Token
Main exports: Yaml.Tree, Yaml.Tree.Draft, Yaml.Tree.resolve, Yaml.Tree.ofText?
-/
import FilterTree.Yaml.Token

namespace FilterTree.Yaml

/-- A node of a YAML document. Mappings keep every entry in its place, also several under one key. -/
inductive Tree where
  | scalar (tag : Option Tag) (plain : Bool) (text : List Char)
  | sequence (tag : Option Tag) (items : List Tree)
  | mapping (tag : Option Tag) (entries : List (Tree × Tree))

namespace Tree

/-- A node as it is written. An alias stands for the node that belongs to the number of an anchor. -/
inductive Draft where
  | alias (number : Nat)
  | scalar (tag : Option Tag) (plain : Bool) (text : List Char)
  | sequence (tag : Option Tag) (items : List Draft)
  | mapping (tag : Option Tag) (entries : List (Draft × Draft))

/-- What is known in the middle of a document. A name gets as its number how many other names there were so
    far, also when it is used again, so that a later name may share the number; a number belongs to the last
    node that began with it. -/
structure Context where
  /-- The meanings of tag handles. -/
  handles : List (List Char × Tag)
  /-- The number that each name of an anchor has by now. -/
  names : List (List Char × Nat)
  /-- The number of each node with an anchor, the last one to begin first. -/
  numbers : List Nat
  /-- The nodes with anchors that are complete, each with how many began before it. -/
  complete : List (Nat × Draft)
  /-- One event for each scalar and alias so far, and two for each collection. -/
  events : Nat

/-- One more event. -/
def Context.tick (context : Context) : Context :=
  { context with events := context.events + 1 }

/-- A reader of nodes: it takes the context and the tokens that are left. -/
abbrev Reader (α : Type) := Context → List Token → Option (α × Context × List Token)

/-- Anchor and tag of a node. -/
structure Properties where
  anchor : Option (List Char) := none
  tag : Option Tag := none

/-- The full tag of a handle and a suffix. -/
def fullTag? (context : Context) (handle : List Char) (suffix : Tag) : Option Tag :=
  if handle.isEmpty then some suffix
  else (context.handles.find? (·.1 == handle)).map fun meaning => meaning.2 ++ suffix

/-- Takes the anchor and the tag of a node, in either order, off the front. -/
def properties? (context : Context) : List Token → Option (Properties × List Token)
  | .anchor name :: .tag handle suffix :: rest => do
    some (⟨some name, some (← fullTag? context handle suffix)⟩, rest)
  | .tag handle suffix :: .anchor name :: rest => do
    some (⟨some name, some (← fullTag? context handle suffix)⟩, rest)
  | .anchor name :: rest => some (⟨some name, none⟩, rest)
  | .tag handle suffix :: rest => do some (⟨none, some (← fullTag? context handle suffix)⟩, rest)
  | rest => some ({}, rest)

/-- Notes the anchor of a node that begins here. -/
def Context.open (context : Context) (anchor : Option (List Char)) : Context :=
  match anchor with
  | some name =>
    let number := context.names.length
    { context.tick with
        names := (name, number) :: context.names.filter (·.1 != name)
        numbers := number :: context.numbers }
  | none => context.tick

/-- Notes that a node is complete before which `before` others with an anchor began. -/
def Context.close (context : Context) (anchor : Option (List Char)) (before : Nat) (draft : Draft) :
    Context :=
  match anchor with
  | some _ => { context with complete := (before, draft) :: context.complete }
  | none => context

/-- What an alias stands for, by the number of its name. -/
def Context.alias? (context : Context) (name : List Char) : Option Draft :=
  (context.names.find? (·.1 == name)).map fun named => .alias named.2

/-- The node that the number of an anchor belongs to. -/
def Context.owner? (context : Context) (number : Nat) : Option Draft := do
  let after ← context.numbers.findIdx? (· == number)
  let before := context.numbers.length - 1 - after
  let (_, draft) ← context.complete.find? (·.1 == before)
  some draft

/-- A scalar that nothing was written for, as a node of its own. -/
def emptyNode : Reader Draft := fun context tokens =>
  some (.scalar none true [], context.open none, tokens)

/-- What may follow where a node was left out: the tokens that end its place. -/
def isLeftOut (ends : List Token) : List Token → Bool
  | [] => false
  | token :: _ => ends.contains token

/-- Where a node may stand: `block` collections may begin here, and a sequence may begin without further
    indentation. -/
structure Place where
  block : Bool
  unindented : Bool

mutual

/-- Reads a node. -/
def node (place : Place) : Nat → Reader Draft
  | 0 => fun _ _ => none
  | fuel + 1 => fun context tokens =>
    match tokens with
    | .alias name :: rest => do some (← context.alias? name, context.tick, rest)
    | _ => do
      let (properties, rest) ← properties? context tokens
      let before := context.numbers.length
      let (draft, context, rest) ← content place properties fuel (context.open properties.anchor) rest
      some (draft, context.close properties.anchor before draft, rest)

/-- Reads what a node consists of, behind its anchor and tag. -/
def content (place : Place) (properties : Properties) : Nat → Reader Draft
  | 0 => fun _ _ => none
  | fuel + 1 => fun context tokens =>
    let tag := properties.tag
    let sequence (result : Option (List Draft × Context × List Token)) :=
      result.map fun (items, context, rest) => (Draft.sequence tag items, context.tick, rest)
    let mapping (result : Option (List (Draft × Draft) × Context × List Token)) :=
      result.map fun (entries, context, rest) => (Draft.mapping tag entries, context.tick, rest)
    match tokens with
    | .scalar plain text :: rest => some (.scalar tag plain text, context, rest)
    | .flowSequenceStart :: rest => sequence (flowItems true fuel context rest)
    | .flowMappingStart :: rest => mapping (flowEntries true fuel context rest)
    | .blockEntry :: _ =>
      if place.unindented then sequence (unindentedItems fuel context tokens)
      else if properties.anchor.isSome || tag.isSome then some (Draft.scalar tag true [], context, tokens)
      else none
    | .blockSequenceStart :: rest =>
      if place.block then sequence (blockItems fuel context rest)
      else if properties.anchor.isSome || tag.isSome then some (Draft.scalar tag true [], context, tokens)
      else none
    | .blockMappingStart :: rest =>
      if place.block then mapping (blockEntries fuel context rest)
      else if properties.anchor.isSome || tag.isSome then some (Draft.scalar tag true [], context, tokens)
      else none
    | tokens =>
      if properties.anchor.isSome || tag.isSome then some (Draft.scalar tag true [], context, tokens)
      else none

/-- Reads the entries of a block sequence up to its end. -/
def blockItems : Nat → Reader (List Draft)
  | 0 => fun _ _ => none
  | fuel + 1 => fun context tokens =>
    match tokens with
    | .blockEntry :: rest => do
      let (item, context, rest) ←
        if isLeftOut [.blockEntry, .blockEnd] rest then emptyNode context rest
        else node ⟨true, false⟩ fuel context rest
      let (items, context, rest) ← blockItems fuel context rest
      some (item :: items, context, rest)
    | .blockEnd :: rest => some ([], context, rest)
    | _ => none

/-- Reads the entries of a sequence that is not indented further than the mapping around it. -/
def unindentedItems : Nat → Reader (List Draft)
  | 0 => fun _ _ => none
  | fuel + 1 => fun context tokens =>
    match tokens with
    | .blockEntry :: rest => do
      let (item, context, rest) ←
        if isLeftOut [.blockEntry, .key, .value, .blockEnd] rest then emptyNode context rest
        else node ⟨true, false⟩ fuel context rest
      let (items, context, rest) ← unindentedItems fuel context rest
      some (item :: items, context, rest)
    | tokens => some ([], context, tokens)

/-- Reads the entries of a block mapping up to its end. -/
def blockEntries : Nat → Reader (List (Draft × Draft))
  | 0 => fun _ _ => none
  | fuel + 1 => fun context tokens =>
    match tokens with
    | .key :: rest => do
      let (key, context, rest) ←
        if isLeftOut [.key, .value, .blockEnd] rest then emptyNode context rest
        else node ⟨true, true⟩ fuel context rest
      let (value, context, rest) ← blockValue fuel context rest
      let (entries, context, rest) ← blockEntries fuel context rest
      some ((key, value) :: entries, context, rest)
    | .blockEnd :: rest => some ([], context, rest)
    | _ => none

/-- Reads the value of an entry of a block mapping. -/
def blockValue : Nat → Reader Draft
  | 0 => fun _ _ => none
  | fuel + 1 => fun context tokens =>
    match tokens with
    | .value :: rest =>
      if isLeftOut [.key, .value, .blockEnd] rest then emptyNode context rest
      else node ⟨true, true⟩ fuel context rest
    | tokens => emptyNode context tokens

/-- Reads the items of a sequence in brackets up to its end; before all but the first stands a comma. -/
def flowItems (first : Bool) : Nat → Reader (List Draft)
  | 0 => fun _ _ => none
  | fuel + 1 => fun context tokens =>
    match tokens with
    | .flowSequenceEnd :: rest => some ([], context, rest)
    | _ => do
      let rest ←
        if first then some tokens
        else match tokens with
          | .flowEntry :: rest => some rest
          | _ => none
      match rest with
      | .flowSequenceEnd :: rest => some ([], context, rest)
      | .key :: rest => do
        let (pair, context, rest) ← flowPair fuel (context.open none) rest
        let (items, context, rest) ← flowItems false fuel context rest
        some (pair :: items, context, rest)
      | rest => do
        let (item, context, rest) ← node ⟨false, false⟩ fuel context rest
        let (items, context, rest) ← flowItems false fuel context rest
        some (item :: items, context, rest)

/-- Reads an entry that makes a mapping of its own among the items of a sequence. A left out key takes the
    token in its place with it. -/
def flowPair : Nat → Reader Draft
  | 0 => fun _ _ => none
  | fuel + 1 => fun context tokens => do
    let (key, context, rest) ←
      if isLeftOut [.value, .flowEntry, .flowSequenceEnd] tokens then emptyNode context (tokens.drop 1)
      else node ⟨false, false⟩ fuel context tokens
    let (value, context, rest) ←
      match rest with
      | .value :: rest =>
        if isLeftOut [.flowEntry, .flowSequenceEnd] rest then emptyNode context rest
        else node ⟨false, false⟩ fuel context rest
      | rest => emptyNode context rest
    some (.mapping none [(key, value)], context.tick, rest)

/-- Reads the entries of a mapping in braces up to its end; before all but the first stands a comma. -/
def flowEntries (first : Bool) : Nat → Reader (List (Draft × Draft))
  | 0 => fun _ _ => none
  | fuel + 1 => fun context tokens =>
    match tokens with
    | .flowMappingEnd :: rest => some ([], context, rest)
    | _ => do
      let rest ←
        if first then some tokens
        else match tokens with
          | .flowEntry :: rest => some rest
          | _ => none
      match rest with
      | .flowMappingEnd :: rest => some ([], context, rest)
      | .key :: rest => do
        let (key, context, rest) ←
          if isLeftOut [.value, .flowEntry, .flowMappingEnd] rest then emptyNode context rest
          else node ⟨false, false⟩ fuel context rest
        let (value, context, rest) ←
          match rest with
          | .value :: rest =>
            if isLeftOut [.flowEntry, .flowMappingEnd] rest then emptyNode context rest
            else node ⟨false, false⟩ fuel context rest
          | rest => emptyNode context rest
        let (entries, context, rest) ← flowEntries false fuel context rest
        some ((key, value) :: entries, context, rest)
      | rest => do
        let (key, context, rest) ← node ⟨false, false⟩ fuel context rest
        let (value, context, rest) ← emptyNode context rest
        let (entries, context, rest) ← flowEntries false fuel context rest
        some ((key, value) :: entries, context, rest)

end

/-!
### Aliases

Aliases are followed when the whole document has been read, since a number belongs to the last node that began
with it.
-/

/-- The node that a draft stands for, while aliases may be followed; their number is counted down. -/
def follow (owner? : Nat → Option Draft) : Draft → StateT Nat Option Draft
  | .alias number => do
    let left ← get
    if left = 0 then failure
    set (left - 1)
    match owner? number with
    | some draft => return draft
    | none => failure
  | draft => return draft

/-- A draft with all its aliases followed, whose collections may be nested as deep as the number says. -/
def resolve (owner? : Nat → Option Draft) : Nat → Draft → StateT Nat Option Tree
  | 0, draft => do
    match ← follow owner? draft with
    | .scalar tag plain text => return .scalar tag plain text
    | _ => failure
  | depth + 1, draft => do
    match ← follow owner? draft with
    | .alias _ => failure
    | .scalar tag plain text => return .scalar tag plain text
    | .sequence tag items => return .sequence tag (← items.mapM (resolve owner? depth))
    | .mapping tag entries =>
      let entries ← entries.mapM fun (key, value) => do
        let key ← resolve owner? depth key
        let value ← resolve owner? depth value
        return (key, value)
      return .mapping tag entries

/-- The deepest nesting of collections. -/
def maxDepth : Nat := 128

/-- How many aliases may be followed for each event. -/
def maxFollowed : Nat := 100

/-!
### Documents
-/

/-- The directives before a document: one version at most, and one meaning for each tag handle. -/
def directives? (version : Bool) (handles : List (List Char × Tag)) :
    List Token → Option (List (List Char × Tag) × Bool × List Token)
  | .version major minor :: rest =>
    if version || major != 1 || (minor != 1 && minor != 2) then none else directives? true handles rest
  | .tagHandle handle stem :: rest =>
    if handles.any (·.1 == handle) then none else directives? version (handles ++ [(handle, stem)]) rest
  | rest => some (handles, version, rest)

/-- The tag handles that have a meaning without a directive. -/
def standardHandles : List (List Char × Tag) :=
  [(['!'], Tag.ofText "!"), (['!', '!'], Tag.standard)]

/-- The start of a document: its tag handles, and whether it is marked. Directives need a mark. -/
def documentStart? (tokens : List Token) : Option (List (List Char × Tag) × Bool × List Token) := do
  let (handles, version, rest) ← directives? false [] tokens
  match rest with
  | .documentStart :: rest => some (handles ++ standardHandles, true, rest)
  | rest => if version || !handles.isEmpty then none else some (standardHandles, false, rest)

/-- The one document of a list of tokens, missing if there is nothing in the text. -/
def ofTokens? (tokens : List Token) : Option (Option Tree) :=
  match tokens with
  | [] => some none
  | _ => do
    let (handles, marked, rest) ← documentStart? tokens
    let context : Context := ⟨handles, [], [], [], 0⟩
    let (draft, context, rest) ←
      match rest with
      | [] => emptyNode context rest
      | .documentEnd :: _ => if marked then emptyNode context rest else none
      | .documentStart :: _ => none
      | rest => node ⟨true, false⟩ (4 * rest.length + 4) context rest
    if !rest.all (· == .documentEnd) then none
    else
      let (tree, _) ← (resolve context.owner? maxDepth draft).run (maxFollowed * context.events)
      some (some tree)

/-- The one document of a text, missing if there is nothing in the text. -/
def ofText? (text : List Char) : Option (Option Tree) :=
  (tokens? text).bind ofTokens?

end Tree

end FilterTree.Yaml
