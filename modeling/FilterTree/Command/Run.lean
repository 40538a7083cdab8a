/-
Module: FilterTree.Command.Run
Layer: Command
Purpose: What the command line does: it loads a filter tree and prints its predicate, its remote query, or the
  records that it matches. The exit code is 0 when that is done, 1 when no record matches, and 2 when the
  options, the tree or the records cannot be used; what was printed before stays printed.
Imports: FilterTree.Command.Options, FilterTree.Records, FilterTree.Filter, FilterTree.Yaml.Writer,
  FilterTree.Text.Json
Main exports: Command.Sources, Command.Outcome, Command.run, Command.runArgs
-/
import FilterTree.Command.Options
import FilterTree.Records
import FilterTree.Filter
import FilterTree.Yaml.Writer
import FilterTree.Text.Json

namespace FilterTree.Command

/-- The texts that a run may read; a file that cannot be read has none. -/
structure Sources where
  file : String → Option String
  stdin : ByteArray

/-- What a run leaves behind. -/
structure Outcome where
  exit : UInt32
  output : String
deriving DecidableEq, Repr

/-- The exit code of a run that did what was asked. -/
def exitDone : UInt32 := 0

/-- The exit code of a run that matched no record. -/
def exitNoMatch : UInt32 := 1

/-- The exit code of a run that could not be carried out. -/
def exitUnusable : UInt32 := 2

/-- An envelope as a JSON text over several lines. -/
def envelopeText (envelope : Query.Envelope) : String :=
  "\x7b\n  \"filter\": " ++ Text.jsonLiteral envelope.filter ++
  ",\n  \"orderBy\": " ++ Text.jsonLiteral envelope.orderBy ++
  ",\n  \"page\": " ++ toString envelope.page.toNat ++
  ",\n  \"pageSize\": " ++ toString envelope.pageSize.toNat ++ "\n\x7d"

/-- The output of a remote run: the envelope and its query string. -/
def remoteText (envelope : Query.Envelope) : String :=
  envelopeText envelope ++ "\n" ++ envelope.queryString ++ "\n"

/-- The records to filter; a named file goes before the standard input. -/
def loadRecords (options : Options) (sources : Sources) : Except LoadFault (List Value) :=
  match options.data with
  | some name => Records.ofSource (sources.file name)
  | none => if options.stdin then Records.ofBytes sources.stdin else .error .missing

/-- Decides predicates on records that are values already. -/
def evaluate : Evaluator Predicate.Fault Value :=
  Predicate.select .ok

/-- The outcome of filtering records, after some output. -/
def filterRecords (filter : Filter) (records : List Value) (before : String) : Outcome :=
  match (filter.filter evaluate records).1 with
  | [] => ⟨exitNoMatch, before⟩
  | kept => ⟨exitDone, before ++ Yaml.write (.list kept)⟩

/-- Whether printing the predicate is all that was asked. -/
def Options.onlyPrints (options : Options) : Bool :=
  options.printPredicate && !options.remote && options.data.isNone && !options.stdin

/-- Carries out a run with a filter tree that was loaded. -/
def runTree (options : Options) (sources : Sources) (nodes : List Node) : Outcome :=
  let filter := (Filter.ofNodes nodes).withOptions options.query
  let before := if options.printPredicate then filter.predicate.1 ++ "\n" else ""
  if options.onlyPrints then ⟨exitDone, before⟩
  else if options.remote then ⟨exitDone, before ++ remoteText filter.remoteQuery⟩
  else
    match loadRecords options sources with
    | .ok records => filterRecords filter records before
    | .error _ => ⟨exitUnusable, before⟩

/-- Carries out a run. -/
def run (options : Options) (sources : Sources) : Outcome :=
  match Records.nodesOfSource (options.tree.bind sources.file) with
  | .ok nodes => runTree options sources nodes
  | .error _ => ⟨exitUnusable, ""⟩

/-- Carries out a run with the arguments as they were given. -/
def runArgs (args : List String) (environment : Option String) (sources : Sources) : Outcome :=
  match Options.ofArgs? args environment with
  | some options => run options sources
  | none => ⟨exitUnusable, ""⟩

end FilterTree.Command
