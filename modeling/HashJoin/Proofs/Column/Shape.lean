import HashJoin.Batch

/-!
# The shape of columns and batches

A column is well formed if what it stores is what it claims to be: data of the type of its
specification, as many rows at every depth, and no NULL where NULL is excluded. A batch is well
formed if all its columns are, with as many rows as the batch, all of them active.

## Main definitions

* `Column.WellFormed`, `Batch.WellFormed` — columns and batches that are what they claim to be.
* `ColumnSpec.absent` — the cell of a row that lacks its side.
* `Column.cellSize`, `Batch.cellSize` — the bytes of a row in one of the text and binary columns.
* `Column.payloadSize` — the bytes of all its rows.
-/

namespace HashJoin

/-! ### Types of stored data -/

/-- The type that fixed-width cells store. -/
def Cells.type : Cells → ScalarType
  | ints width _ => .int width
  | singles _ => .float .single
  | doubles _ => .float .double

/-- The type that byte sequences store. -/
def BytesKind.type : BytesKind → ScalarType
  | binary => .binary
  | text => .text

/-- There is a sequence for each of `n` rows: the offsets ascend, and the last one ends the
payload. -/
structure Slices.WellFormed (s : Slices) (n : Nat) : Prop where
  /-- One offset more than there are rows. -/
  size : s.offsets.size = n + 1
  /-- The offsets ascend. -/
  ascending : ∀ row < n, s.offsets.getD row 0 ≤ s.offsets.getD (row + 1) 0
  /-- The last offset ends the payload. -/
  last : s.offsets.getD n 0 = s.payload.size

/-! ### Well-formed columns -/

/-- There is a bit for each of `n` rows, and it is set if the column excludes NULL. -/
structure Validity.Suits (v : Validity) (spec : ColumnSpec) (n : Nat) : Prop where
  /-- One bit for each row. -/
  length : v.length = n
  /-- No NULL where it is excluded. -/
  present : spec.nullable = false → ∀ row < n, v.isValid row = true

namespace Column

mutual

/-- The column stores `n` rows of what it claims to be. -/
def WellFormed (n : Nat) : Column → Prop
  | fixed s v buffer =>
    v.Suits s n ∧ buffer.cells.length = n ∧ s.scalarType? = some buffer.cells.type
  | bytes s v kind slices => v.Suits s n ∧ slices.WellFormed n ∧ s.scalarType? = some kind.type
  | record s v length children =>
    v.Suits s n ∧ length = n ∧ s.isRecord = true ∧ children.map spec = s.fields ∧
      WellFormedAll n children

/-- All columns of a sequence store `n` rows of what they claim to be. -/
def WellFormedAll (n : Nat) : List Column → Prop
  | [] => True
  | c :: cs => WellFormed n c ∧ WellFormedAll n cs

end

theorem wellFormedAll_iff {n : Nat} {cs : List Column} :
    WellFormedAll n cs ↔ ∀ c ∈ cs, c.WellFormed n := by
  induction cs with
  | nil => simp [WellFormedAll]
  | cons c cs ih => simp [WellFormedAll, ih]

theorem length_rowAt (row : Nat) (cs : List Column) : (rowAt row cs).length = cs.length := by
  induction cs with
  | nil => rfl
  | cons c cs ih => exact congrArg (· + 1) ih

/-! ### Bytes -/

mutual

/-- The bytes of a row in the text or binary column at a path through the fields of records. -/
def cellSize (row : Nat) : Column → List Nat → Nat
  | bytes _ _ _ slices, [] => (slices.get row).size
  | record _ _ _ children, i :: path => cellSizeIn row children i path
  | _, _ => 0

/-- The bytes of a row in the column at a path that begins with a place in a sequence of columns. -/
def cellSizeIn (row : Nat) : List Column → Nat → List Nat → Nat
  | [], _, _ => 0
  | c :: _, 0, path => cellSize row c path
  | _ :: cs, i + 1, path => cellSizeIn row cs i path

end

mutual

/-- The bytes of all rows in the text or binary column at a path through the fields of records. -/
def payloadSize : Column → List Nat → Nat
  | bytes _ _ _ slices, [] => slices.payload.size
  | record _ _ _ children, i :: path => payloadSizeIn children i path
  | _, _ => 0

/-- The bytes of all rows in the column at a path that begins with a place in a sequence. -/
def payloadSizeIn : List Column → Nat → List Nat → Nat
  | [], _, _ => 0
  | c :: _, 0, path => payloadSize c path
  | _ :: cs, i + 1, path => payloadSizeIn cs i path

end

end Column

/-! ### Absent cells -/

/-- The zero of a type. -/
def ScalarType.zero : ScalarType → Value
  | int _ => .integer 0
  | float _ => .float .zero
  | binary => .blob .empty
  | text => .text ""

namespace ColumnSpec

mutual

/-- The cell of a row that lacks its side: NULL where it is admitted, and otherwise a zero, or a
record of such cells. -/
def absent : ColumnSpec → Value
  | scalar _ t nullable => if nullable then .null else t.zero
  | record _ fields nullable => if nullable then .null else .record (absentAll fields)

/-- The cells of a row that lacks its side. -/
def absentAll : List ColumnSpec → List Value
  | [] => []
  | c :: cs => absent c :: absentAll cs

end

@[simp] theorem length_absentAll (cs : List ColumnSpec) : (absentAll cs).length = cs.length := by
  induction cs with
  | nil => rfl
  | cons c cs ih => exact congrArg (· + 1) ih

end ColumnSpec

/-! ### Batches -/

namespace Batch

/-- The batch has all rows active, and its columns store as many rows of what they claim to be. -/
structure WellFormed (b : Batch) : Prop where
  /-- All rows are active. -/
  dense : b.isDense = true
  /-- The columns. -/
  columns : Column.WellFormedAll b.rowCount b.columns

/-- The bytes of a row in the text or binary column at a path. -/
def cellSize (b : Batch) (row : Nat) : List Nat → Nat
  | [] => 0
  | i :: path => Column.cellSizeIn row b.columns i path

end Batch

end HashJoin
