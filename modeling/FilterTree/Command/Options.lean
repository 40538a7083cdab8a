/-
Module: FilterTree.Command.Options
Layer: Command
Purpose: The options of the command line. An option is given at most once, as `--name value` or
  `--name=value`; a flag takes no value, and nothing may stand alone. The file of the filter tree may come
  from the environment instead.
Imports: FilterTree.Query.Envelope, FilterTree.Text.Digits
Main exports: Command.Options, Command.Options.ofArgs?
-/
import FilterTree.Query.Envelope
import FilterTree.Text.Digits

namespace FilterTree.Command

/-- What the command line asks for. -/
structure Options where
  tree : Option String
  data : Option String
  stdin : Bool
  remote : Bool
  printPredicate : Bool
  query : Query.Options
deriving DecidableEq, Repr

/-- The names of the options that take a value. -/
def valueNames : List String := ["tree", "data", "order-by", "page", "page-size"]

/-- The names of the flags. -/
def flagNames : List String := ["stdin", "remote", "print-predicate"]

/-- An option as it was given. -/
structure Given where
  name : String
  value : Option String
deriving DecidableEq, Repr

/-- Splits an argument behind its two hyphens at the first equals sign. -/
def splitArg (text : List Char) : String × Option String :=
  let name := String.ofList (text.takeWhile (· != '='))
  match text.dropWhile (· != '=') with
  | [] => (name, none)
  | _ :: value => (name, some (String.ofList value))

/-- Whether an argument may be the value of the option before it; what looks like an option may not. -/
def isValue (arg : String) : Bool :=
  match arg.toList with
  | '-' :: _ :: _ => false
  | _ => true

/-- Reads arguments as options. Two hyphens alone end them, and nothing may follow. -/
def given? : List String → Option (List Given)
  | [] => some []
  | arg :: rest =>
    match arg.toList with
    | '-' :: '-' :: [] => if rest.isEmpty then some [] else none
    | '-' :: '-' :: text =>
      let (name, value) := splitArg text
      if flagNames.contains name then
        if value.isSome then none else (given? rest).map (⟨name, none⟩ :: ·)
      else if valueNames.contains name then
        match value, rest with
        | some value, rest => (given? rest).map (⟨name, some value⟩ :: ·)
        | none, value :: rest =>
          if isValue value then (given? rest).map (⟨name, some value⟩ :: ·) else none
        | none, [] => none
      else none
    | _ => none

/-- Whether an option is among those given. -/
def isGiven (all : List Given) (name : String) : Bool :=
  all.any (·.name == name)

/-- The value of an option. -/
def valueOf (all : List Given) (name : String) : Option String :=
  (all.find? (·.name == name)).bind Given.value

/-- A file name, which must not be empty. -/
def fileName? : Option String → Option (Option String)
  | some "" => none
  | name => some name

/-- A page number: decimal digits with an optional sign, within 32 bits. -/
def pageNumber? (text : String) : Option UInt32 :=
  match text.toList with
  | '-' :: digits => (Text.natural? 10 digits).bind fun value => if value = 0 then some 0 else none
  | digits =>
    (Text.unsigned? digits).bind fun value =>
      if value < UInt32.size then some (UInt32.ofNat value) else none

/-- The page number of an option; one that is not given is zero. -/
def pageOf? (all : List Given) (name : String) : Option UInt32 :=
  match valueOf all name with
  | some text => pageNumber? text
  | none => some 0

/-- Reads the options from the arguments and from what the environment says about the tree. -/
def Options.ofArgs? (args : List String) (environment : Option String) : Option Options := do
  let all ← given? args
  if (all.map Given.name).eraseDups.length != all.length then none
  let tree ← fileName? ((valueOf all "tree").or environment)
  let data ← fileName? (valueOf all "data")
  let page ← pageOf? all "page"
  let pageSize ← pageOf? all "page-size"
  some {
    tree := tree
    data := data
    stdin := isGiven all "stdin"
    remote := isGiven all "remote"
    printPredicate := isGiven all "print-predicate"
    query := ⟨(valueOf all "order-by").getD "", page, pageSize⟩ }

end FilterTree.Command
