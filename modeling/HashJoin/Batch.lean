import HashJoin.Column.Builder
import HashJoin.Selection

/-!
# Batches

A batch is a group of columns of one length. It may carry a selection, which makes some of its rows
the active ones; without one it is dense, and all rows are active.

## Main definitions

* `Batch.ofRows`, `Batch.ofColumns`, `Batch.empty`, `Batch.withSelection` — the ways to make one.
* `Batch.schema`, `Batch.conforms`, `Batch.rows`, `Batch.memorySize` — what can be read from it.
-/

namespace HashJoin

/-- A group of columns. -/
structure Batch where
  /-- Number of stored rows. -/
  rowCount : Nat
  /-- The rows that the batch was made for. -/
  capacity : Nat
  /-- The columns. -/
  columns : List Column
  /-- The active rows, if not all are. -/
  selection : Option Selection

namespace Batch

/-! ### Making batches -/

/-- Appends rows to builders, one for each column; `row` is the number of the first. -/
def pushRows (width : Nat) (builders : List Column.Builder) (row : Nat) :
    List Row → Except FormatError (List Column.Builder)
  | [] => .ok builders
  | cells :: rows =>
    if cells.length ≠ width then .error (.rowWidth row cells.length width)
    else match Column.Builder.pushAll row builders cells with
      | (.ok (), builders) => pushRows width builders (row + 1) rows
      | (.error e, _) => .error e

/-- The batch of some rows, stored in columns of the given specifications. -/
def ofRows (rows : List Row) (specs : List ColumnSpec) (capacity : Nat) :
    Except FormatError Batch :=
  if capacity < rows.length then .error (.rowCount rows.length capacity)
  else do
    let builders ← pushRows specs.length (Column.Builder.ofSpecs specs) 0 rows
    let columns ← Column.Builder.finishAll AlignedCells.defaultAlignment builders
    return ⟨rows.length, capacity, columns, none⟩

/-- The batch of some columns, all of which have to be as long as the first. -/
def ofColumns (columns : List Column) : Except FormatError Batch :=
  let rowCount := (columns.head?.map Column.length).getD 0
  match columns.find? fun c => c.length != rowCount || c.validity.length != rowCount with
  | some c => .error (.columnLength c.spec.name c.length rowCount)
  | none => .ok ⟨rowCount, rowCount, columns, none⟩

/-- The batch without rows. -/
def empty (specs : List ColumnSpec) : Except FormatError Batch := ofRows [] specs 0

/-- The batch with the given active rows, each of which it has to have. -/
def withSelection (b : Batch) (selection : Selection) : Except FormatError Batch :=
  match selection.rows.find? fun row => b.rowCount ≤ row.toNat with
  | some row => .error (.selectedRow row.toNat b.rowCount)
  | none => .ok { b with selection := some selection }

/-! ### Reading batches -/

/-- Whether all rows are active. -/
def isDense (b : Batch) : Bool := b.selection.isNone

/-- Number of active rows. -/
def activeCount (b : Batch) : Nat := (b.selection.map Selection.length).getD b.rowCount

/-- The column at a position. -/
def column? (b : Batch) (position : Nat) : Option Column := b.columns[position]?

/-- The specifications of the columns. -/
def schema (b : Batch) : Schema := ⟨b.columns.map Column.spec⟩

/-- Whether the columns are specified as in a schema. -/
def conforms (b : Batch) (schema : Schema) : Bool := b.schema == schema

/-- Bytes of all buffers. -/
def memorySize (b : Batch) : Nat :=
  Column.memorySizes b.columns + (b.selection.map Selection.byteSize).getD 0

/-- The stored row at a position. -/
def row (b : Batch) (position : Nat) : Row := Column.rowAt position b.columns

/-- The active rows. -/
def rows (b : Batch) : List Row :=
  match b.selection with
  | some selection => selection.rows.map fun position => b.row position.toNat
  | none => (List.range b.rowCount).map b.row

/-- Equality of batches, in which floats compare as numbers. -/
def same (a b : Batch) : Bool :=
  a.rowCount == b.rowCount && a.capacity == b.capacity && Column.sameAll a.columns b.columns &&
    a.selection == b.selection

instance : BEq Batch := ⟨same⟩

end Batch

end HashJoin
