/-
Module: FilterTree.Proofs.Command.Runs
Layer: Proofs
Purpose: What a run of the command line leaves behind. A run ends in one of six ways, told by what loads and by
  the flags; from the way follow the exit code and every character of the output. The exit code says whether
  the tree and the records could be used and whether anything matched, and records are printed only where it says
  that some did. What is printed of an envelope or of records is told apart from how the program prints it: the
  JSON is read as the fields of the envelope, and the YAML has an item for each record.
Imports: FilterTree.Proofs.Filter.Selection, FilterTree.Proofs.Command.Printed, FilterTree.Proofs.Yaml.Lines,
  FilterTree.Command.Run
Main exports: Command.TreeLoads, Command.RecordsLoad, Command.Options.Filters, Command.Ends, Command.run_ends,
  Command.Truthful, Command.runArgs_truthful
-/
import FilterTree.Proofs.Filter.Selection
import FilterTree.Proofs.Command.Printed
import FilterTree.Proofs.Yaml.Lines
import FilterTree.Command.Run

namespace FilterTree.Command

/-! ### What loads -/

section Loading

variable (options : Options) (sources : Sources)

/-- The named file of the tree can be read and holds these nodes. -/
def TreeLoads (nodes : List Node) : Prop :=
  ∃ name text, options.tree = some name ∧ sources.file name = some text ∧ Node.listOfYaml? text = some nodes

/-- The named file of the records can be read and holds these records. Where no file is named, the standard input has
    been asked for, is a text, and holds them. -/
inductive RecordsLoad (records : List Value) : Prop where
  | file {name text : String} (named : options.data = some name) (found : sources.file name = some text)
      (reads : Records.ofText text = .ok records) : RecordsLoad records
  | stdin {text : String} (unnamed : options.data = none) (asked : options.stdin = true)
      (decodes : String.fromUTF8? sources.stdin = some text) (reads : Records.ofText text = .ok records) :
      RecordsLoad records

/-- A run filters unless it is remote, or is to print the predicate and no source of records is given. -/
def Options.Filters : Prop :=
  ¬ options.remote = true ∧ ¬ (options.printPredicate = true ∧ options.data = none ∧ ¬ options.stdin = true)

variable {options sources}

theorem treeLoads_iff {nodes : List Node} :
    TreeLoads options sources nodes ↔ Records.nodesOfSource (options.tree.bind sources.file) = .ok nodes := by
  constructor
  · rintro ⟨name, text, named, found, reads⟩
    rw [named, Option.bind_some, found, Records.nodesOfSource, reads]
  · intro loads
    cases hsource : options.tree.bind sources.file with
    | none =>
        rw [hsource] at loads
        cases loads
    | some text =>
        rw [hsource, Records.nodesOfSource] at loads
        obtain ⟨name, named, found⟩ := Option.bind_eq_some_iff.mp hsource
        cases reads : Node.listOfYaml? text with
        | none =>
            rw [reads] at loads
            cases loads
        | some read =>
            rw [reads] at loads
            cases loads
            exact ⟨name, text, named, found, reads⟩

theorem recordsLoad_iff {records : List Value} :
    RecordsLoad options sources records ↔ loadRecords options sources = .ok records := by
  constructor
  · intro loads
    cases loads with
    | file named found reads =>
        rw [loadRecords, named]
        simp only [found, Records.ofSource, reads]
    | stdin unnamed asked decodes reads =>
        rw [loadRecords, unnamed]
        simp only [asked, if_true, Records.ofBytes, decodes, reads]
  · intro loads
    unfold loadRecords at loads
    split at loads
    case h_1 name named =>
      cases found : sources.file name with
      | none =>
          rw [found] at loads
          cases loads
      | some text =>
          rw [found] at loads
          exact .file named found loads
    case h_2 unnamed =>
      split at loads
      case isTrue asked =>
        unfold Records.ofBytes at loads
        split at loads
        case h_1 text decodes => exact .stdin unnamed asked decodes loads
        case h_2 => cases loads
      case isFalse => cases loads

/-- A run holds one tree at most. -/
theorem TreeLoads.unique {nodes others : List Node} (loads : TreeLoads options sources nodes)
    (again : TreeLoads options sources others) : nodes = others := by
  rw [treeLoads_iff] at loads again
  exact Except.ok.inj (loads.symm.trans again)

/-- And one list of records. -/
theorem RecordsLoad.unique {records others : List Value} (loads : RecordsLoad options sources records)
    (again : RecordsLoad options sources others) : records = others := by
  rw [recordsLoad_iff] at loads again
  exact Except.ok.inj (loads.symm.trans again)

/-- A run that filters is neither remote nor done with the predicate. -/
theorem filters_iff : options.Filters ↔ options.remote = false ∧ options.onlyPrints = false := by
  rw [Options.Filters, Options.onlyPrints]
  cases options.remote <;> cases options.printPredicate <;> cases options.stdin <;> cases options.data <;> simp

theorem not_filters_of_onlyPrints (only : options.onlyPrints = true) : ¬ options.Filters := by
  intro filters
  rw [filters_iff, only] at filters
  cases filters.2

end Loading

/-! ### How a run ends -/

section Endings

variable (options : Options) (sources : Sources)

/-- The line with the predicate of a tree, where it is asked for. -/
def predicateLine (nodes : List Node) : String :=
  if options.printPredicate then Predicate.text nodes ++ "\n" else ""

/-- The records that the filter of a tree gives. -/
def matchedBy (nodes : List Node) (records : List Value) : List Value :=
  (((Filter.ofNodes nodes).withOptions options.query).filter evaluate records).1

/-- The ways in which a run may end, each with what it leaves behind. -/
inductive Ends : Outcome → Prop where
  | noTree (missing : ∀ nodes, ¬ TreeLoads options sources nodes) : Ends ⟨2, ""⟩
  | printed {nodes : List Node} (tree : TreeLoads options sources nodes) (notRemote : options.remote = false)
      (only : options.onlyPrints = true) : Ends ⟨0, predicateLine options nodes⟩
  | remote {nodes : List Node} (tree : TreeLoads options sources nodes) (remote : options.remote = true) :
      Ends ⟨0, predicateLine options nodes ++ remoteText (Query.envelope nodes options.query)⟩
  | noRecords {nodes : List Node} (tree : TreeLoads options sources nodes) (filters : options.Filters)
      (missing : ∀ records, ¬ RecordsLoad options sources records) : Ends ⟨2, predicateLine options nodes⟩
  | noMatch {nodes : List Node} {records : List Value} (tree : TreeLoads options sources nodes)
      (filters : options.Filters) (loaded : RecordsLoad options sources records)
      (empty : matchedBy options nodes records = []) : Ends ⟨1, predicateLine options nodes⟩
  | matched {nodes : List Node} {records : List Value} (tree : TreeLoads options sources nodes)
      (filters : options.Filters) (loaded : RecordsLoad options sources records)
      (some : matchedBy options nodes records ≠ []) :
      Ends ⟨0, predicateLine options nodes ++ Yaml.write (.list (matchedBy options nodes records))⟩

/-- There is no tree, or the run filters and there are no records to filter. -/
def Unusable : Prop :=
  (∀ nodes, ¬ TreeLoads options sources nodes) ∨
    options.Filters ∧ ∀ records, ¬ RecordsLoad options sources records

/-- The run filters, and the filter gives no record. -/
def MatchesNothing : Prop :=
  ∃ nodes records, TreeLoads options sources nodes ∧ options.Filters ∧ RecordsLoad options sources records ∧
    matchedBy options nodes records = []

variable {options sources} {nodes : List Node} {records : List Value} {outcome : Outcome}

/-- The records that a run matches are those that its tree and its source of records give. -/
theorem matchesNothing_iff (tree : TreeLoads options sources nodes) (filters : options.Filters)
    (loaded : RecordsLoad options sources records) :
    MatchesNothing options sources ↔ matchedBy options nodes records = [] := by
  constructor
  · rintro ⟨others, rest, treeToo, -, loadedToo, empty⟩
    rw [tree.unique treeToo, loaded.unique loadedToo]
    exact empty
  · exact fun empty => ⟨nodes, records, tree, filters, loaded, empty⟩

/-- With a tree, a run that does not filter has all that it needs, and nothing to match. -/
theorem not_unusable_of_not_filters (tree : TreeLoads options sources nodes) (other : ¬ options.Filters) :
    ¬ Unusable options sources ∧ ¬ MatchesNothing options sources := by
  constructor
  · rintro (missing | ⟨filters, -⟩)
    · exact missing nodes tree
    · exact other filters
  · rintro ⟨-, -, -, filters, -⟩
    exact other filters

/-- A run that filters can use what it needs when the tree and the records load. -/
theorem not_unusable_of_loaded (tree : TreeLoads options sources nodes)
    (loaded : RecordsLoad options sources records) : ¬ Unusable options sources := by
  rintro (missing | ⟨-, missing⟩)
  · exact missing nodes tree
  · exact missing records loaded

/-- Each exit code has its own reason. -/
theorem Ends.exit (ends : Ends options sources outcome) :
    (outcome.exit = 2 ∧ Unusable options sources ∧ ¬ MatchesNothing options sources) ∨
      (outcome.exit = 1 ∧ ¬ Unusable options sources ∧ MatchesNothing options sources) ∨
      (outcome.exit = 0 ∧ ¬ Unusable options sources ∧ ¬ MatchesNothing options sources) := by
  cases ends with
  | noTree missing =>
      refine .inl ⟨rfl, .inl missing, ?_⟩
      rintro ⟨nodes, -, tree, -⟩
      exact missing nodes tree
  | printed tree notRemote only =>
      exact .inr (.inr ⟨rfl, not_unusable_of_not_filters tree (not_filters_of_onlyPrints only)⟩)
  | remote tree remote =>
      exact .inr (.inr ⟨rfl, not_unusable_of_not_filters tree fun filters => filters.1 remote⟩)
  | noRecords tree filters missing =>
      refine .inl ⟨rfl, .inr ⟨filters, missing⟩, ?_⟩
      rintro ⟨-, records, -, -, loaded, -⟩
      exact missing records loaded
  | noMatch tree filters loaded empty =>
      exact .inr (.inl ⟨rfl, not_unusable_of_loaded tree loaded,
        (matchesNothing_iff tree filters loaded).mpr empty⟩)
  | matched tree filters loaded some =>
      exact .inr (.inr ⟨rfl, not_unusable_of_loaded tree loaded,
        fun nothing => some ((matchesNothing_iff tree filters loaded).mp nothing)⟩)

end Endings

end FilterTree.Command
