/-
Module: FilterTree.Query.Codec
Layer: Query
Purpose: Reading the options and the envelope of a remote query from values of documents.
Imports: FilterTree.Query.Envelope, FilterTree.Mismatch
Main exports: Query.Options.ofValue, Query.Envelope.ofValue
-/
import FilterTree.Query.Envelope
import FilterTree.Mismatch

namespace FilterTree.Query

/-- The fields of an envelope while they are read. -/
structure Fields where
  filter : Option String := none
  orderBy : Option String := none
  page : Option UInt32 := none
  pageSize : Option UInt32 := none

/-- Reads one entry into its slot; `withFilter` says whether the filter is one of the fields. -/
def Fields.put (withFilter : Bool) (fields : Fields) (name : String) (value : Value) :
    Except Mismatch Fields :=
  match name with
  | "filter" =>
    if withFilter then value.readText.map fun filter => { fields with filter := some filter } else .ok fields
  | "orderBy" => value.readText.map fun orderBy => { fields with orderBy := some orderBy }
  | "page" => value.readWord.map fun page => { fields with page := some page }
  | "pageSize" => value.readWord.map fun pageSize => { fields with pageSize := some pageSize }
  | _ => .ok fields

/-- Reads the entries in their order; unknown ones are passed over. Tags on keys do not count. -/
def readFields (withFilter : Bool) (fields : Fields) : List (Value × Value) → Except Mismatch Fields
  | [] => .ok fields
  | (key, value) :: rest =>
    match key.untagged with
    | .text name => do
      let fields ← fields.put withFilter name value
      readFields withFilter fields rest
    | key => .error (.invalidType key.found "field identifier")

/-- The entries of a mapping, whose tags do not count; a null stands for a mapping without entries. -/
def entriesOf (shape : String) (value : Value) : Except Mismatch (List (Value × Value)) :=
  match value.untagged with
  | .null => .ok []
  | .map entries => .ok entries
  | value => .error (.invalidType value.found shape)

/-- Reads options; every field may be missing. -/
def Options.ofValue (value : Value) : Except Mismatch Options := do
  let entries ← entriesOf "struct QueryOptions" value
  let fields ← readFields false {} entries
  .ok ⟨fields.orderBy.getD "", fields.page.getD 0, fields.pageSize.getD 0⟩

/-- A field that has to be there. -/
def requiredField {α : Type} (name : String) : Option α → Except Mismatch α
  | some value => .ok value
  | none => .error (.missingField name)

/-- Reads an envelope; every field has to be there. -/
def Envelope.ofValue (value : Value) : Except Mismatch Envelope := do
  let entries ← entriesOf "struct QueryEnvelope" value
  let fields ← readFields true {} entries
  let filter ← requiredField "filter" fields.filter
  let orderBy ← requiredField "orderBy" fields.orderBy
  let page ← requiredField "page" fields.page
  let pageSize ← requiredField "pageSize" fields.pageSize
  .ok ⟨filter, orderBy, page, pageSize⟩

end FilterTree.Query
