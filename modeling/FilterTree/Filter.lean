/-
Module: FilterTree.Filter
Layer: Use
Purpose: A filter tree in use. A filter holds its tree, the options of its remote query, and the predicate
  text once somebody has asked for it. Filtering hands that text to an evaluator; a filter that must give
  records gives none when the evaluator fails.
Imports: FilterTree.Predicate.Text, FilterTree.Predicate.Eval, FilterTree.Query.Envelope
Main exports: Filter, Filter.predicate, Filter.remoteQuery, Filter.tryFilterM, Filter.filterM,
  Filter.tryFilter, Filter.filter, Session, Session.answer, Session.run
-/
import FilterTree.Predicate.Text
import FilterTree.Predicate.Eval
import FilterTree.Query.Envelope

namespace FilterTree

/-- A filter tree in use. -/
structure Filter where
  nodes : List Node
  options : Query.Options
  /-- The predicate text, once it has been asked for. -/
  compiled : Option String
deriving Repr

/-- What decides a predicate text on records: it gives the records to keep, or an error. -/
abbrev Evaluator (ε α : Type) := String → List α → Except ε (List α)

namespace Filter

/-- The filter of a tree, with nothing set and nothing asked. -/
def ofNodes (nodes : List Node) : Filter :=
  ⟨nodes, {}, none⟩

/-- The same filter with other options. -/
def withOptions (filter : Filter) (options : Query.Options) : Filter :=
  { filter with options := options }

/-- The number of nodes at the top of the tree. -/
def count (filter : Filter) : Nat :=
  filter.nodes.length

/-- The predicate text, and the filter that remembers it. -/
def predicate (filter : Filter) : String × Filter :=
  match filter.compiled with
  | some text => (text, filter)
  | none =>
    let text := Predicate.text filter.nodes
    (text, { filter with compiled := some text })

/-- The remote query of the tree under the options of the filter. -/
def remoteQuery (filter : Filter) : Query.Envelope :=
  Query.envelope filter.nodes filter.options

/-- What an evaluator makes of the records, and the filter afterwards. The evaluator is called inside a monad,
    where a call may leave a trace. -/
def tryFilterM {m : Type → Type} [Monad m] {ε α : Type}
    (evaluate : String → List α → m (Except ε (List α))) (filter : Filter) (records : List α) :
    m (Except ε (List α) × Filter) := do
  let (text, filter) := filter.predicate
  let result ← evaluate text records
  return (result, filter)

/-- The records that an evaluator keeps, none when it fails, and the filter afterwards. -/
def filterM {m : Type → Type} [Monad m] {ε α : Type}
    (evaluate : String → List α → m (Except ε (List α))) (filter : Filter) (records : List α) :
    m (List α × Filter) := do
  let (result, filter) ← filter.tryFilterM evaluate records
  match result with
  | .ok kept => return (kept, filter)
  | .error _ => return ([], filter)

/-- Filtering with an evaluator whose calls leave no trace. -/
def tryFilter {ε α : Type} (evaluate : Evaluator ε α) (filter : Filter) (records : List α) :
    Except ε (List α) × Filter :=
  Id.run (filter.tryFilterM (fun text records => pure (evaluate text records)) records)

/-- Filtering that gives records in any case, with an evaluator whose calls leave no trace. -/
def filter {ε α : Type} (evaluate : Evaluator ε α) (filter : Filter) (records : List α) :
    List α × Filter :=
  Id.run (filter.filterM (fun text records => pure (evaluate text records)) records)

end Filter

/-!
### Sessions

A session is a filter together with the calls that its evaluator has received so far.
-/

/-- What may be asked of a filter. -/
inductive Request (α : Type) where
  | setOptions (options : Query.Options)
  | nodes
  | count
  | predicate
  | remoteQuery
  | filter (records : List α)
  | tryFilter (records : List α)

/-- What a filter answers. -/
inductive Reply (ε α : Type) where
  | done
  | nodes (nodes : List Node)
  | count (count : Nat)
  | predicate (text : String)
  | remoteQuery (envelope : Query.Envelope)
  | kept (records : List α)
  | outcome (result : Except ε (List α))

/-- A filter in use and the calls of its evaluator, in their order. -/
structure Session (α : Type) where
  filter : Filter
  calls : List (String × List α)

namespace Session

/-- The session of a new filter. -/
def start {α : Type} (nodes : List Node) : Session α :=
  ⟨.ofNodes nodes, []⟩

/-- An evaluator that notes its calls, one behind the other. -/
def noting {ε α : Type} (evaluate : Evaluator ε α) (text : String) (records : List α) :
    StateM (List (String × List α)) (Except ε (List α)) := fun calls =>
  (evaluate text records, calls ++ [(text, records)])

/-- The answer to a request, and the session afterwards. -/
def answer {ε α : Type} (evaluate : Evaluator ε α) (session : Session α) :
    Request α → Reply ε α × Session α
  | .setOptions options => (.done, { session with filter := session.filter.withOptions options })
  | .nodes => (.nodes session.filter.nodes, session)
  | .count => (.count session.filter.count, session)
  | .predicate =>
    let (text, filter) := session.filter.predicate
    (.predicate text, { session with filter := filter })
  | .remoteQuery => (.remoteQuery session.filter.remoteQuery, session)
  | .filter records =>
    let ((kept, filter), calls) := (session.filter.filterM (noting evaluate) records).run session.calls
    (.kept kept, ⟨filter, calls⟩)
  | .tryFilter records =>
    let ((result, filter), calls) := (session.filter.tryFilterM (noting evaluate) records).run session.calls
    (.outcome result, ⟨filter, calls⟩)

/-- The answers to several requests in their order, and the session afterwards. The evaluator may remember:
    what it makes of a call may depend on the calls before it. -/
def run {ε α : Type} (evaluate : List (String × List α) → Evaluator ε α) (session : Session α) :
    List (Request α) → List (Reply ε α) × Session α
  | [] => ([], session)
  | request :: rest =>
    let (reply, next) := session.answer (evaluate session.calls) request
    let (replies, last) := run evaluate next rest
    (reply :: replies, last)

end Session

end FilterTree
