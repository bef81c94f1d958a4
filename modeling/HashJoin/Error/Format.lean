import HashJoin.Schema
import HashJoin.Value

/-!
# Format errors

The reasons why a batch, or a part of one, cannot be built.

## Main definitions

* `FormatError` — the reasons.
* `FormatError.message` — their wording.
-/

namespace HashJoin

/-- Why a batch or a part of it cannot be built. -/
inductive FormatError
  /-- More rows than the capacity allows. -/
  | rowCount (rows capacity : Nat)
  /-- A row with another number of cells than the schema has columns. -/
  | rowWidth (row cells columns : Nat)
  /-- A column whose length, or whose bitmap's length, is not the number of rows. -/
  | columnLength (column : String) (length rows : Nat)
  /-- A selected row that the batch does not have. -/
  | selectedRow (index rows : Nat)
  /-- A row number too large for a selection. -/
  | selectionEntry (row : Nat)
  /-- An alignment that is not a power of two. -/
  | alignment (bytes : Nat)
  /-- Fewer bitmap bytes than the rows need. -/
  | bitmapLength (needed bytes : Nat)
  /-- A NULL for a column that excludes it. -/
  | nullValue (column : ColumnSpec)
  /-- A value of a kind that the column does not take. -/
  | valueType (row : Nat) (column : ColumnSpec) (value : Value)
  /-- A record with another number of fields than the column. -/
  | recordWidth (row : Nat) (column : ColumnSpec) (fields : Nat)
  /-- An integer that the column is too narrow for. -/
  | integerRange (row : Nat) (column : ColumnSpec) (i : Int)
  /-- More text or bytes in one column than offsets can address. -/
  | payload (column : ColumnSpec)
  /-- A NULL row to be copied into a column that excludes it. -/
  | nullSource (column source : ColumnSpec) (row : Nat)
  /-- A record to be copied from a column with another number of fields. -/
  | sourceWidth (column : ColumnSpec) (fields : Nat)
  /-- A row to be copied from a column that is stored in another way. -/
  | sourceType (column source : ColumnSpec)
  /-- A reason that someone else has put into words. -/
  | described (text : String)

/-- The wording of a format error. -/
def FormatError.message : FormatError → String
  | rowCount rows capacity => s!"row count {rows} exceeds capacity {capacity}"
  | rowWidth row cells columns => s!"row {row} width {cells} does not match schema width {columns}"
  | columnLength column length rows =>
    s!"column {column} has length {length} but batch has {rows} rows"
  | selectedRow index rows => s!"selection index {index} out of range for {rows} rows"
  | selectionEntry row => s!"row index {row} does not fit into selection vector entry"
  | alignment bytes => s!"alignment must be power-of-two, got {bytes}"
  | bitmapLength needed bytes =>
    s!"validity bitmap too short: expected at least {needed} bytes, got {bytes}"
  | nullValue column => s!"column {column.name} is not nullable"
  | valueType row column value =>
    s!"type mismatch at row {row}, column {column.name} " ++
      s!"(expected {column.typeName}, got {value.typeName})"
  | recordWidth row column fields =>
    s!"struct width mismatch at row {row}, column {column.name} " ++
      s!"(expected {column.fields.length}, got {fields})"
  | integerRange row column i => s!"integer out of range at row {row}, column {column.name} value={i}"
  | payload column => s!"column {column.name} exceeds 4 GiB payload"
  | nullSource column source row =>
    s!"column {column.name} is not nullable but source {source.name} row {row} is NULL"
  | sourceWidth column fields =>
    s!"struct column {column.name} has {column.fields.length} children, source has {fields}"
  | sourceType column source =>
    s!"cannot copy column {source.name} ({source.typeName}) into column {column.name} " ++
      s!"({column.typeName})"
  | described text => text

end HashJoin
