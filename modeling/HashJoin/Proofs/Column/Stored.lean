import HashJoin.Proofs.Column.Shape

/-!
# Stored cells

A cell is read as a value, and reading may lose something: a float of the shorter format is read as
one of the longer format, in which all NaNs look alike, and bytes that are not UTF-8 are read as a
text that many others are read as, too. What a column stores is the cell before it is read.

## Main definitions

* `StoredCell` — what a column stores in a row.
* `Column.storedAt`, `Batch.storedRow` — the stored cells of a column, and those of a row.
* `Batch.Typed` — batches that store data of the types that they claim.
-/

namespace HashJoin

/-- What a column stores in a row. -/
inductive StoredCell where
  /-- No value. -/
  | null
  /-- An integer of any width. -/
  | integer (i : Int)
  /-- A number of the 32-bit format. -/
  | single (x : Binary32)
  /-- A number of the 64-bit format. -/
  | double (x : Binary64)
  /-- The bytes of a text or byte sequence. -/
  | bytes (kind : BytesKind) (data : ByteArray)
  /-- A record, with one cell for each field. -/
  | record (fields : List StoredCell)

/-- What some cells store in a row. -/
def Cells.storedAt (cells : Cells) (row : Nat) : StoredCell :=
  match cells with
  | ints _ values => .integer (values.getD row 0)
  | singles values => .single (values.getD row .zero)
  | doubles values => .double (values.getD row .zero)

namespace Column

mutual

/-- What a column stores in a row; a row that the bitmap does not mark has no value. -/
def storedAt (row : Nat) : Column → StoredCell
  | fixed _ v buffer => if v.isValid row then buffer.cells.storedAt row else .null
  | bytes _ v kind slices => if v.isValid row then .bytes kind (slices.get row) else .null
  | record _ v _ children => if v.isValid row then .record (storedIn row children) else .null

/-- What the columns of a sequence store in a row. -/
def storedIn (row : Nat) : List Column → List StoredCell
  | [] => []
  | c :: cs => storedAt row c :: storedIn row cs

end

/-- Whether records are stored. -/
def holdsRecords : Column → Bool
  | fixed .. | bytes .. => false
  | record .. => true

end Column

namespace Batch

/-- The stored cells of the row at a position. -/
def storedRow (b : Batch) (row : Nat) : List StoredCell := Column.storedIn row b.columns

/-- The stored cell of a row in the first column of a name. -/
def storedCell? (b : Batch) (name : String) (row : Nat) : Option StoredCell :=
  (b.columns.find? fun c => c.spec.name == name).map (Column.storedAt row)

/-- Every column stores scalars if it claims to, and records if it claims to. -/
def Typed (b : Batch) : Prop := ∀ c ∈ b.columns, c.holdsRecords = c.spec.isRecord

/-- Well-formed batches do. -/
theorem WellFormed.typed {b : Batch} (h : b.WellFormed) : b.Typed := by
  intro c hc
  have hformed := Column.wellFormedAll_iff.mp h.columns c hc
  cases c with
  | fixed spec v buffer =>
    show false = spec.scalarType?.isNone
    rw [hformed.2.2]
    rfl
  | bytes spec v kind slices =>
    show false = spec.scalarType?.isNone
    rw [hformed.2.2]
    rfl
  | record spec v length children => exact hformed.2.2.1.symm

end Batch
end HashJoin
