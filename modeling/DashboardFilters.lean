import DashboardFilters.LogSettings
import DashboardFilters.Main
import DashboardFilters.Session
import DashboardFilters.Tree.Edit
import DashboardFilters.Proofs.Keyed
import DashboardFilters.Proofs.Compile.Reported
import DashboardFilters.Proofs.Compile.Grouping
import DashboardFilters.Proofs.Compile.Layout
import DashboardFilters.Proofs.Compile.Evaluation
import DashboardFilters.Proofs.Compile.Arrangement
import DashboardFilters.Proofs.Compile.Meaning
import DashboardFilters.Proofs.Compile.Entries
import DashboardFilters.Proofs.Compile.Isolation
import DashboardFilters.Proofs.Tree.Outline
import DashboardFilters.Proofs.Tree.Edits
import DashboardFilters.Proofs.Tree.Blocks
import DashboardFilters.Proofs.Tree.Editing
import DashboardFilters.Proofs.Doubles
import DashboardFilters.Proofs.Json.Canonical
import DashboardFilters.Proofs.Reading.Yields
import DashboardFilters.Proofs.Json.Readers
import DashboardFilters.Proofs.Json.Scans
import DashboardFilters.Proofs.Tree.Operands
import DashboardFilters.Proofs.Tree.WellFormed
import DashboardFilters.Proofs.Tree.RoundTrip
import DashboardFilters.Proofs.Calendar.Civil
import DashboardFilters.Proofs.Digits
import DashboardFilters.Proofs.Calendar.Iso
import DashboardFilters.Proofs.Calendar.Written
import DashboardFilters.Proofs.Form.RoundTrip
import DashboardFilters.Proofs.Form.Reopening
import DashboardFilters.Proofs.Session.History
import DashboardFilters.Proofs.Session.Paths
import DashboardFilters.Proofs.Calendar.Reread
import DashboardFilters.Proofs.Form.Summaries
import DashboardFilters.Proofs.Form.Editing
import DashboardFilters.Proofs.Config.Patterns
import DashboardFilters.Proofs.Form.Relocation
import DashboardFilters.Proofs.CommandLine.Arguments
import DashboardFilters.Proofs.CommandLine.Strictness
import DashboardFilters.Proofs.Compile.Keys
import DashboardFilters.Proofs.Compile.Rearrangement
import DashboardFilters.Proofs.Compile.Dependence
import DashboardFilters.Proofs.Culprits
import DashboardFilters.Proofs.Form.Leaves
import DashboardFilters.Proofs.Form.LeafByLeaf
import DashboardFilters.Proofs.Visibility
import DashboardFilters.Proofs.Calendar.Months
import DashboardFilters.Proofs.Calendar.Spans
import DashboardFilters.Proofs.Temporal.Intervals
import DashboardFilters.Proofs.Calendar.Exchange
import DashboardFilters.Proofs.Form.Typed
import DashboardFilters.Proofs.Calendar.Distances
import DashboardFilters.Proofs.Calendar.Spellings
import DashboardFilters.Proofs.Temporal.Kinds
import DashboardFilters.Proofs.Temporal.Windows
import DashboardFilters.Proofs.Json.Records
import DashboardFilters.Proofs.Tree.Stored
import DashboardFilters.Proofs.Tree.Acceptance
import DashboardFilters.Proofs.Expression.Written
import DashboardFilters.Proofs.Expression.Determined
import DashboardFilters.Proofs.Items
import DashboardFilters.Proofs.Numerals
import DashboardFilters.Proofs.Compile.Lists
import DashboardFilters.Proofs.Overflow
import DashboardFilters.Proofs.Compile.NumberLists
import DashboardFilters.Proofs.Config.Replacement
import DashboardFilters.Proofs.Config.References
import DashboardFilters.Proofs.Config.Substitution
import DashboardFilters.Proofs.Tree.Commuting
import DashboardFilters.Proofs.Quotients
import DashboardFilters.Proofs.Json.Parsed
import DashboardFilters.Proofs.Values
import DashboardFilters.Proofs.Json.Quoted
import DashboardFilters.Proofs.Json.Printed
import DashboardFilters.Proofs.Timezones
import DashboardFilters.Proofs.Datasets
