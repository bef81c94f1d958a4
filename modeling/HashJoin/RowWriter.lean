import HashJoin.Batch
import HashJoin.OutputSchema

/-!
# Row writers

A writer collects joined rows, column by column. A row whose build or probe side is missing has
absent cells there. A row that is refused is not counted, but columns that took their cell before
the refusal keep it.

## Main definitions

* `RowWriter`, `RowWriter.ofSchema`, `RowWriter.append`, `RowWriter.finish`.
-/

namespace HashJoin

/-- The rows of an output batch in the making. -/
structure RowWriter where
  /-- The build columns. -/
  build : List Column.Builder
  /-- The probe columns. -/
  probe : List Column.Builder
  /-- Number of rows. -/
  rows : Nat

/-- A row of a batch. -/
abbrev BatchRow := Batch × Nat

namespace RowWriter

/-- The writer without rows. -/
def ofSchema (output : OutputSchema) : RowWriter where
  build := Column.Builder.ofSpecs (output.schema.fields.take output.buildWidth)
  probe := Column.Builder.ofSpecs (output.schema.fields.drop output.buildWidth)
  rows := 0

/-- Writes one side of a row. -/
def writeSide (builders : List Column.Builder) (source : Option BatchRow) :
    Except FormatError Unit × List Column.Builder :=
  match source with
  | some (batch, row) => Column.Builder.pushFromAll row builders batch.columns
  | none => (.ok (), Column.Builder.pushAbsentAll builders)

/-- Writes a row; the build side comes first. -/
def append : RowWriter → Option BatchRow → Option BatchRow → Except FormatError Unit × RowWriter
  | ⟨build, probe, rows⟩, buildRow, probeRow =>
    match writeSide build buildRow with
    | (.error e, build) => (.error e, ⟨build, probe, rows⟩)
    | (.ok (), build) =>
      match writeSide probe probeRow with
      | (.error e, probe) => (.error e, ⟨build, probe, rows⟩)
      | (.ok (), probe) => (.ok (), ⟨build, probe, rows + 1⟩)

/-- The batch of the rows written. -/
def finish (w : RowWriter) : Except FormatError Batch := do
  let columns ← Column.Builder.finishAll AlignedCells.defaultAlignment (w.build ++ w.probe)
  Batch.ofColumns columns

end RowWriter

end HashJoin
