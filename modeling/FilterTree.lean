import FilterTree.Builder
import FilterTree.Main
import FilterTree.Query.Codec
import FilterTree.Proofs.Builder.Runs
import FilterTree.Proofs.Command.Runs
import FilterTree.Proofs.Filter.Complement
import FilterTree.Proofs.Filter.Conjunction
import FilterTree.Proofs.Filter.Pointwise
import FilterTree.Proofs.Filter.Session
import FilterTree.Proofs.Grammar.Accepted
import FilterTree.Proofs.Grammar.Nesting
import FilterTree.Proofs.Grammar.Positions
import FilterTree.Proofs.Grammar.Progress
import FilterTree.Proofs.Query.QueryString
import FilterTree.Proofs.Query.ReadBack
import FilterTree.Proofs.Query.Skipping
import FilterTree.Proofs.Tree.Documents
import FilterTree.Proofs.Tree.Fields
import FilterTree.Proofs.Tree.Literals
import FilterTree.Proofs.Tree.Templates
import FilterTree.Proofs.Verdict.Affixes
import FilterTree.Proofs.Verdict.DayTexts
import FilterTree.Proofs.Verdict.Days
import FilterTree.Proofs.Verdict.Parentheses
import FilterTree.Proofs.Verdict.Reads
import FilterTree.Proofs.Verdict.Tags
