/-
Module: FilterTree.Query.Envelope
Layer: Query
Purpose: Remote queries: the filter text of a filter tree in the notation of query strings, and the envelope
  that carries it with a sort order and a page. A comma joins, a bar separates alternatives, parentheses
  group. There is no negation, so that connective writes nothing.
Imports: FilterTree.Spelling, FilterTree.Text.Form
Main exports: Comparison.condition, Query.spelling, Query.Options, Query.Envelope, Query.envelope,
  Query.Envelope.queryString
-/
import FilterTree.Spelling
import FilterTree.Text.Form

namespace FilterTree

/-- A field without the marks of optional steps. -/
def Comparison.plainField (comparison : Comparison) : List Char :=
  comparison.field.toList.filter (· != '?')

/-- The condition of a comparison in a remote query: field, symbol and bare value. A comparison without a
    field writes nothing. -/
def Comparison.condition (comparison : Comparison) : List Char :=
  if comparison.field.isEmpty then []
  else comparison.plainField ++ (comparison.operator.symbol.toList ++ comparison.value.chars)

namespace Query

/-- The text of a connective in a remote query. -/
def connective : Connective → List Char
  | .and => [',']
  | .or => ['|']
  | .not => []

/-- The spelling of remote queries. -/
def spelling : Spelling where
  connective := connective
  comparison := Comparison.condition

/-- How the answer of a remote query is to be sorted and cut into pages. Empty and zero mean unset. -/
structure Options where
  orderBy : String := ""
  page : UInt32 := 0
  pageSize : UInt32 := 0
deriving DecidableEq, Repr, Inhabited

/-- A remote query with everything that travels with it. -/
structure Envelope where
  filter : String
  orderBy : String
  page : UInt32
  pageSize : UInt32
deriving DecidableEq, Repr, Inhabited

/-- The filter text of a list of siblings. -/
def filterText (nodes : List Node) : String :=
  String.ofList (spelling.writeAll nodes)

/-- The envelope of a list of siblings, under given options. -/
def envelope (nodes : List Node) (options : Options) : Envelope where
  filter := filterText nodes
  orderBy := options.orderBy
  page := options.page
  pageSize := options.pageSize

namespace Envelope

/-- The decimal digits of a page number. -/
def pageChars (page : UInt32) : List Char :=
  Nat.toDigits 10 page.toNat

/-- The named values of an envelope. The filter is always there; the others only when they are set. -/
def pairs (envelope : Envelope) : List (List Char × List Char) :=
  [("filter".toList, envelope.filter.toList)] ++
    (if envelope.orderBy.isEmpty then [] else [("orderBy".toList, envelope.orderBy.toList)]) ++
    (if envelope.page = 0 then [] else [("page".toList, pageChars envelope.page)]) ++
    (if envelope.pageSize = 0 then [] else [("pageSize".toList, pageChars envelope.pageSize)])

/-- The query string of an envelope. -/
def queryString (envelope : Envelope) : String :=
  String.ofList (Text.formPairs envelope.pairs)

end Envelope

end Query

end FilterTree
