import Cadence.Calendar.Date
import Cadence.Calendar.Reading
import Cadence.Choice
import Cadence.Correlation
import Cadence.Duration.Basic
import Cadence.Duration.Error
import Cadence.Duration.Parser
import Cadence.Duration.Unit
import Cadence.Error
import Cadence.Frequency
import Cadence.Journal
import Cadence.Log.Directive
import Cadence.Log.Event
import Cadence.Log.Filter
import Cadence.Log.Json
import Cadence.Log.Line
import Cadence.Log.Subscriber
import Cadence.Log.TextPattern
import Cadence.Log.Threshold
import Cadence.Numeric.Binary
import Cadence.Numeric.Counter
import Cadence.Numeric.Decimal
import Cadence.Partiality
import Cadence.Pattern.Basic
import Cadence.Pattern.Comparison
import Cadence.Pattern.Compile
import Cadence.Pattern.Parser
import Cadence.Pipeline
import Cadence.Predicate.Basic
import Cadence.Predicate.Component
import Cadence.Proofs.Calendar.Date
import Cadence.Proofs.Outcome
import Cadence.Reducer.Basic
import Cadence.Reducer.Reduce
import Cadence.Reducer.Request
import Cadence.Reducer.Targets
import Cadence.Resampler
import Cadence.Scan
import Cadence.Segments
import Cadence.Settings.Project
import Cadence.Settings.Sections
import Cadence.Settings.Setting
import Cadence.Settings.Stages
import Cadence.Storage.Path
import Cadence.Storage.Workspace
import Cadence.Table.Basic
import Cadence.Table.Cell
import Cadence.Table.Concat
import Cadence.Table.Type
import Cadence.Text.Alphabetic
import Cadence.Text.Basic
import Cadence.Text.Hidden
import Cadence.Text.Numeral
import Cadence.TimeAxis
import Cadence.TimeFilter
import Cadence.Toml.Document
import Cadence.Toml.Entries
import Cadence.Toml.Scalar
import Cadence.Toml.Text
import Cadence.Window.Assignment
import Cadence.Window.Bounds
import Cadence.Window.Period
import Cadence.Window.Shift
import Cadence.Window.Spec
import Cadence.Zone.Basic
import Cadence.Zone.Database
import Cadence.Zone.Instant
import Cadence.Zone.Parser
import Cadence.Zone.Table
import Cadence.Proofs.Pattern.Meaning
import Cadence.Proofs.Duration.Span
import Cadence.Proofs.Window.Grid
import Cadence.Proofs.Zone.Clock
import Cadence.Proofs.Window.Membership
import Cadence.Proofs.Window.Filing
import Cadence.Proofs.Window.Assignment
import Cadence.Proofs.Window.Recomputation
import Cadence.Proofs.Window.Computation
import Cadence.Proofs.Window.Tiling
import Cadence.Proofs.Table.Selection
import Cadence.Proofs.Table.TimeOrder
import Cadence.Proofs.Window.FewerRows
import Cadence.Proofs.Resampler.Summary
import Cadence.Proofs.Resampler.Policies
import Cadence.Proofs.Resampler.Partiality
import Cadence.Proofs.Pipeline.Composition
import Cadence.Proofs.Duration.Days
import Cadence.Proofs.Window.Nesting
import Cadence.Proofs.Window.Blocks
import Cadence.Proofs.Window.Regrouping
import Cadence.Proofs.Reducer.Parts
import Cadence.Proofs.Table.Rows
import Cadence.Proofs.Resampler.Keeping
import Cadence.Proofs.Resampler.Conservation
import Cadence.Proofs.Resampler.RowOrder
import Cadence.Proofs.Resampler.Repeated
import Cadence.Proofs.Resampler.Rollup
import Cadence.Proofs.Resampler.Coarsening
import Cadence.Proofs.Text.Digits
import Cadence.Proofs.Duration.Text
import Cadence.Proofs.Pattern.Grammar
import Cadence.Proofs.Reducer.Names
import Cadence.Proofs.Resampler.Names
import Cadence.Proofs.Table.Instants
import Cadence.Proofs.Pipeline.Names
import Cadence.Proofs.Resampler.Setup
import Cadence.Proofs.Window.Labels
import Cadence.Proofs.Resampler.Labels
import Cadence.Proofs.Failure
import Cadence.Proofs.Frequency
import Cadence.Proofs.Window.Offset
import Cadence.Proofs.Table.Retiming
import Cadence.Proofs.Resampler.Offset
import Cadence.Proofs.Window.Failure
import Cadence.Proofs.Resampler.Failure
import Cadence.Proofs.Calendar.Months
import Cadence.Proofs.Window.LocalGrid
import Cadence.Proofs.Zone.Gaps
import Cadence.Proofs.Window.Counters
import Cadence.Proofs.Window.Shift
import Cadence.Proofs.Duration.Totals
import Cadence.Proofs.Frequency.Interval
import Cadence.Proofs.Zone.Order
import Cadence.Proofs.Window.Datapoint
import Cadence.Proofs.Window.Length
import Cadence.Proofs.Resampler.Fitting
import Cadence.Proofs.Reducer.Sums
import Cadence.Proofs.Segments
import Cadence.Proofs.Correlation
import Cadence.Proofs.Predicate.Text
import Cadence.Proofs.Reducer.Entries
