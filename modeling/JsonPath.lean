import JsonPath.Command.Program
import JsonPath.Main
import JsonPath.Pattern.Matcher
import JsonPath.Proofs.Evaluation.Typed
import JsonPath.Proofs.Path.Select
import JsonPath.Report.Console
import JsonPath.Session
import JsonPath.Settings.Load
import JsonPath.Proofs.Grammar.Nesting
import JsonPath.Proofs.Grammar.Parse
import JsonPath.Proofs.Evaluation.Limits
import JsonPath.Proofs.Evaluation.Order
import JsonPath.Proofs.Pattern.Membership
import JsonPath.Proofs.Command.Files
import JsonPath.Proofs.Command.SettingsFile
import JsonPath.Proofs.Settings.Requests
import JsonPath.Proofs.Command.EntryPoints
import JsonPath.Proofs.Evaluation.Exactness
import JsonPath.Proofs.Evaluation.Traversal
import JsonPath.Proofs.Grammar.Offending
import JsonPath.Proofs.Grammar.Spacing
import JsonPath.Proofs.Evaluation.Distinct
import JsonPath.Proofs.Evaluation.Visits
import JsonPath.Proofs.Evaluation.Composition
import JsonPath.Proofs.Evaluation.Moved
import JsonPath.Proofs.Evaluation.Subtree
import JsonPath.Proofs.Evaluation.Coherence
import JsonPath.Proofs.Evaluation.Budget
import JsonPath.Proofs.Typing.Enclosed
import JsonPath.Proofs.Grammar.Limit
import JsonPath.Proofs.Pattern.Overlap
import JsonPath.Proofs.Text.Caret
import JsonPath.Proofs.Session.Anchored
import JsonPath.Proofs.Pattern.Cache
import JsonPath.Proofs.Value.Written
import JsonPath.Proofs.Report.Lines
import JsonPath.Proofs.Report.ReadBack
