/-
Module: FilterTree.Records
Layer: Use
Purpose: Loading records and filter trees from texts, and why that may fail. Records are the items of a list,
  or a single mapping; a text without anything but blanks holds none.
Imports: FilterTree.Yaml.NodeList, FilterTree.Text.Blank
Main exports: LoadFault, LoadFault.message, Records.ofText, Records.ofSource, Records.nodesOfSource
-/
import FilterTree.Yaml.NodeList
import FilterTree.Text.Blank

namespace FilterTree

/-- Why records or a filter tree cannot be loaded. -/
inductive LoadFault where
  /-- There is no such file. -/
  | missing
  /-- The standard input is not a text in UTF-8. -/
  | notText
  /-- The text is not YAML, or its document has the wrong shape. -/
  | invalid
  /-- The document is neither a list nor a mapping. -/
  | notRecords (found : String)
deriving DecidableEq, Repr

/-- The wording of a fault. -/
def LoadFault.message : LoadFault → String
  | .missing => "Failed to read the file"
  | .notText => "Failed to read <stdin>: stream did not contain valid UTF-8"
  | .invalid => "Invalid YAML/JSON"
  | .notRecords found => "Expected a list of records or a single mapping, got " ++ found

namespace Records

/-- The records of a document. -/
def ofValue : Value → Except LoadFault (List Value)
  | .list items => .ok items
  | .null => .ok []
  | .map entries => .ok [.map entries]
  | .bool _ => .error (.notRecords "a boolean")
  | .int _ => .error (.notRecords "a number")
  | .float _ => .error (.notRecords "a number")
  | .text _ => .error (.notRecords "a string")
  | .tagged _ _ => .error (.notRecords "a tagged value")

/-- The records of a text. -/
def ofText (text : String) : Except LoadFault (List Value) :=
  if Text.isBlankText text.toList then .ok []
  else
    match Yaml.load? text with
    | some value => ofValue value
    | none => .error .invalid

/-- The records of a file, which may be missing. -/
def ofSource : Option String → Except LoadFault (List Value)
  | some text => ofText text
  | none => .error .missing

/-- The records of the bytes of an input stream. -/
def ofBytes (bytes : ByteArray) : Except LoadFault (List Value) :=
  match String.fromUTF8? bytes with
  | some text => ofText text
  | none => .error .notText

/-- The filter tree of a file, which may be missing. -/
def nodesOfSource : Option String → Except LoadFault (List Node)
  | some text =>
    match Node.listOfYaml? text with
    | some nodes => .ok nodes
    | none => .error .invalid
  | none => .error .missing

end Records

end FilterTree
