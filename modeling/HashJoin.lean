import HashJoin.Batch
import HashJoin.Binary
import HashJoin.Budget
import HashJoin.BuildSide
import HashJoin.BuildStore
import HashJoin.Checked
import HashJoin.Checked.Filling
import HashJoin.Checked.Operator
import HashJoin.Checked.Probing
import HashJoin.Checked.Rows
import HashJoin.Checked.Table
import HashJoin.Column
import HashJoin.Column.Builder
import HashJoin.Config
import HashJoin.Config.Document
import HashJoin.Decimal
import HashJoin.Decimal.Layout
import HashJoin.Digest.Xxh3
import HashJoin.Error.Format
import HashJoin.Error.Join
import HashJoin.Key.Cell
import HashJoin.Key.Family
import HashJoin.Key.Resolved
import HashJoin.MatchLedger
import HashJoin.Metrics
import HashJoin.NestedLoop
import HashJoin.Operator
import HashJoin.OutputSchema
import HashJoin.Probe
import HashJoin.Probe.Cursor
import HashJoin.Probe.Rows
import HashJoin.Probe.Supply
import HashJoin.Proofs.Batch.Rows
import HashJoin.Proofs.BuildSide.Alignment
import HashJoin.Proofs.BuildSide.Counting
import HashJoin.Proofs.BuildSide.Filling
import HashJoin.Proofs.BuildSide.Offences
import HashJoin.Proofs.BuildSide.Steps
import HashJoin.Proofs.BuildSide.Tally
import HashJoin.Proofs.BuildStore.Absorption
import HashJoin.Proofs.BuildStore.History
import HashJoin.Proofs.BuildStore.Serving
import HashJoin.Proofs.Checked.Filling
import HashJoin.Proofs.Checked.Operator
import HashJoin.Proofs.Checked.Probing
import HashJoin.Proofs.Checked.Rows
import HashJoin.Proofs.Checked.Table
import HashJoin.Proofs.Column.Accepting
import HashJoin.Proofs.Column.Appending
import HashJoin.Proofs.Column.Bitmap
import HashJoin.Proofs.Column.Building
import HashJoin.Proofs.Column.Copying
import HashJoin.Proofs.Column.Equality
import HashJoin.Proofs.Column.Growth
import HashJoin.Proofs.Column.Packing
import HashJoin.Proofs.Column.Refusing
import HashJoin.Proofs.Column.Sealing
import HashJoin.Proofs.Column.Shape
import HashJoin.Proofs.Column.Stored
import HashJoin.Proofs.Join.Output
import HashJoin.Proofs.Join.Start
import HashJoin.Proofs.Join.Streams
import HashJoin.Proofs.Key.Agreement
import HashJoin.Proofs.Key.Faults
import HashJoin.Proofs.Key.Matching
import HashJoin.Proofs.MatchLedger.Linking
import HashJoin.Proofs.MatchLedger.Marking
import HashJoin.Proofs.MatchLedger.Roll
import HashJoin.Proofs.Memory.Limit
import HashJoin.Proofs.Memory.Loading
import HashJoin.Proofs.Memory.Metering
import HashJoin.Proofs.Memory.Operator
import HashJoin.Proofs.Memory.Parts
import HashJoin.Proofs.Metrics.Counting
import HashJoin.Proofs.NestedLoop.Remaining
import HashJoin.Proofs.NestedLoop.Swapped
import HashJoin.Proofs.Operator.Calls
import HashJoin.Proofs.Operator.Frames
import HashJoin.Proofs.Operator.Output
import HashJoin.Proofs.Output.Gathering
import HashJoin.Proofs.Output.Writing
import HashJoin.Proofs.Probe.Admissions
import HashJoin.Proofs.Probe.Bound
import HashJoin.Proofs.Probe.Lacking
import HashJoin.Proofs.Probe.Ledger
import HashJoin.Proofs.Probe.Output
import HashJoin.Proofs.Probe.Supplying
import HashJoin.Proofs.Probe.Tracking
import HashJoin.Proofs.Probe.Walking
import HashJoin.Proofs.Run.Agreeing
import HashJoin.Proofs.Run.Alignment
import HashJoin.Proofs.Run.Breaking
import HashJoin.Proofs.Run.Completing
import HashJoin.Proofs.Run.Conforming
import HashJoin.Proofs.Run.Counting
import HashJoin.Proofs.Run.Endings
import HashJoin.Proofs.Run.Kills
import HashJoin.Proofs.Run.Nesting
import HashJoin.Proofs.Run.Offences
import HashJoin.Proofs.Run.Padding
import HashJoin.Proofs.Run.Safety
import HashJoin.Proofs.Run.Standing
import HashJoin.Proofs.Run.Swapping
import HashJoin.Proofs.Run.Typing
import HashJoin.Proofs.SlotTable.Chains
import HashJoin.Proofs.SlotTable.Insertion
import HashJoin.Proofs.SlotTable.Lookup
import HashJoin.Proofs.SlotTable.Rebuilding
import HashJoin.Proofs.SlotTable.Shape
import HashJoin.Proofs.SlotTable.Words
import HashJoin.Proofs.Source.Delivery
import HashJoin.Proofs.Source.Measured
import HashJoin.Proofs.Source.Reliable
import HashJoin.Proofs.Watch.Faithful
import HashJoin.Proofs.Watch.Inputs
import HashJoin.Proofs.Watch.Source
import HashJoin.RowRef
import HashJoin.RowWriter
import HashJoin.Schema
import HashJoin.Selection
import HashJoin.SlotTable
import HashJoin.Source
import HashJoin.Source.Script
import HashJoin.Text.Hex
import HashJoin.Text.Hidden
import HashJoin.Text.Quoted
import HashJoin.Text.Utf8
import HashJoin.Toml.Document
import HashJoin.Toml.Reader
import HashJoin.Toml.Scalar
import HashJoin.Toml.Value
import HashJoin.Validity
import HashJoin.Value
