import HashJoin.Error.Format
import HashJoin.Text.Utf8
import HashJoin.Validity

/-!
# Columns

A column stores its cells by type: fixed-width cells in one array, texts and byte sequences as one
payload with offsets, and records as one column for each field. A bitmap beside them says which rows
hold a value. The specification is what the column claims to be; how it is stored is a matter of its
own, so the two can be compared.

## Main definitions

* `Cells`, `AlignedCells` — fixed-width cells, and the same with the alignment of their buffer.
* `Slices` — byte sequences cut from one payload.
* `Column` — a specification, the stored cells and their bitmap.
* `Column.valueAt` — the cell of a row.
* `Column.same` — equality of columns, in which floats compare as numbers.
* `Column.memorySize` — the bytes of all buffers.
-/

namespace HashJoin

/-! ### Fixed-width cells -/

/-- Cells of one fixed width. -/
inductive Cells
  /-- Integers of one width. -/
  | ints (width : IntWidth) (values : Array Int)
  /-- Floating-point numbers of the 32-bit format. -/
  | singles (values : Array Binary32)
  /-- Floating-point numbers of the 64-bit format. -/
  | doubles (values : Array Binary64)

namespace Cells

/-- Number of cells. -/
def length : Cells → Nat
  | ints _ values => values.size
  | singles values => values.size
  | doubles values => values.size

/-- Bytes that one cell takes, which is also its natural alignment. -/
def cellSize : Cells → Nat
  | ints width _ => width.byteSize
  | singles _ => FloatWidth.single.byteSize
  | doubles _ => FloatWidth.double.byteSize

/-- Bytes that all cells take. -/
def byteSize (cells : Cells) : Nat := cells.cellSize * cells.length

/-- The value of one cell; floats of either format are read as 64-bit ones. -/
def valueAt (cells : Cells) (row : Nat) : Value :=
  match cells with
  | ints _ values => .integer (values.getD row 0)
  | singles values => .float (values.getD row .zero).convert
  | doubles values => .float (values.getD row .zero)

/-- Whether two sequences of cells are stored alike and hold equal numbers. -/
def same : Cells → Cells → Bool
  | ints width values, ints width' values' => width == width' && values == values'
  | singles values, singles values' => values == values'
  | doubles values, doubles values' => values == values'
  | _, _ => false

/-- The texts of the cells; floats always show a point or a power of ten. -/
def texts : Cells → List String
  | ints _ values => values.toList.map toString
  | singles values => values.toList.map (Binary.render .ranged)
  | doubles values => values.toList.map (Binary.render .ranged)

end Cells

/-- Fixed-width cells in a buffer of declared alignment. -/
structure AlignedCells where
  /-- The cells. -/
  cells : Cells
  /-- The alignment in bytes. -/
  alignment : Nat

namespace AlignedCells

/-- The alignment that buffers get unless another is asked for. -/
def defaultAlignment : Nat := 32

/-- The cells in a buffer of the given alignment, or of their natural one if that is greater. -/
def ofCells (cells : Cells) (alignment : Nat) : Except FormatError AlignedCells :=
  let alignment := max alignment cells.cellSize
  if 1 <<< alignment.log2 = alignment then .ok ⟨cells, alignment⟩ else .error (.alignment alignment)

/-- Whether two buffers have the same alignment and hold equal numbers. -/
def same (a b : AlignedCells) : Bool := a.alignment == b.alignment && a.cells.same b.cells

/-- A description of the buffer. -/
def render (a : AlignedCells) : String :=
  "AlignedValues \x7b len: " ++ toString a.cells.length ++ ", alignment: " ++
    toString a.alignment ++ ", values: [" ++ ", ".intercalate a.cells.texts ++ "] \x7d"

end AlignedCells

/-! ### Byte sequences -/

/-- What byte sequences stand for. -/
inductive BytesKind
  /-- Themselves. -/
  | binary
  /-- Text in UTF-8. -/
  | text
  deriving DecidableEq

/-- Byte sequences are compared in one way, whatever else is imported. -/
local instance decideBytes : DecidableEq ByteArray := ByteArray.instDecidableEq

/-- Byte sequences that share one payload; the sequence of a row lies between two successive
offsets. -/
structure Slices where
  /-- The ends of the sequences, after a first entry where the first one starts. -/
  offsets : Array Nat
  /-- The payload. -/
  payload : ByteArray
  deriving DecidableEq

namespace Slices

/-- No sequences. -/
def empty : Slices := ⟨#[0], .empty⟩

/-- Number of sequences. -/
def length (s : Slices) : Nat := s.offsets.size - 1

/-- Bytes of the payload and of the offsets, four for each. -/
def byteSize (s : Slices) : Nat := 4 * s.offsets.size + s.payload.size

/-- The sequence of a row. -/
def get (s : Slices) (row : Nat) : ByteArray :=
  s.payload.extract (s.offsets.getD row 0) (s.offsets.getD (row + 1) 0)

/-- The value of a row. -/
def valueAt (s : Slices) (kind : BytesKind) (row : Nat) : Value :=
  match kind with
  | .binary => .blob (s.get row)
  | .text => .text (Text.decode (s.get row))

end Slices

/-! ### Columns -/

/-- A column of a batch. -/
inductive Column where
  /-- Fixed-width cells. -/
  | fixed (spec : ColumnSpec) (validity : Validity) (buffer : AlignedCells)
  /-- Texts or byte sequences. -/
  | bytes (spec : ColumnSpec) (validity : Validity) (kind : BytesKind) (slices : Slices)
  /-- Records, with one column for each field. -/
  | record (spec : ColumnSpec) (validity : Validity) (length : Nat) (children : List Column)

namespace Column

/-- What the column claims to be. -/
def spec : Column → ColumnSpec
  | fixed s .. => s
  | bytes s .. => s
  | record s .. => s

/-- Which rows hold a value. -/
def validity : Column → Validity
  | fixed _ v _ => v
  | bytes _ v .. => v
  | record _ v .. => v

/-- Number of stored rows. -/
def length : Column → Nat
  | fixed _ _ buffer => buffer.cells.length
  | bytes _ _ _ slices => slices.length
  | record _ _ n _ => n

/-- Whether a row holds a value. -/
def isValid (c : Column) (row : Nat) : Bool := c.validity.isValid row

mutual

/-- Bytes of all buffers of a column, bitmaps included. -/
def memorySize : Column → Nat
  | fixed _ v buffer => buffer.cells.byteSize + v.bytes.size
  | bytes _ v _ slices => slices.byteSize + v.bytes.size
  | record _ v _ children => memorySizes children + v.bytes.size

/-- Bytes of all buffers of a sequence of columns. -/
def memorySizes : List Column → Nat
  | [] => 0
  | c :: cs => memorySize c + memorySizes cs

end

mutual

/-- The cell of a row; a row that the bitmap does not mark is NULL. -/
def valueAt (row : Nat) : Column → Value
  | fixed _ v buffer => if v.isValid row then buffer.cells.valueAt row else .null
  | bytes _ v kind slices => if v.isValid row then slices.valueAt kind row else .null
  | record _ v _ children => if v.isValid row then .record (rowAt row children) else .null

/-- The cells of a row in a sequence of columns. -/
def rowAt (row : Nat) : List Column → List Value
  | [] => []
  | c :: cs => valueAt row c :: rowAt row cs

end

mutual

/-- Equality of columns: specification, stored cells and bitmap bytes. -/
def same : Column → Column → Bool
  | fixed s v buffer, fixed s' v' buffer' => s == s' && v == v' && buffer.same buffer'
  | bytes s v kind slices, bytes s' v' kind' slices' =>
    s == s' && v == v' && kind == kind' && slices == slices'
  | record s v n children, record s' v' n' children' =>
    s == s' && v == v' && n == n' && sameAll children children'
  | _, _ => false

/-- Equality of two sequences of columns. -/
def sameAll : List Column → List Column → Bool
  | [], [] => true
  | c :: cs, d :: ds => same c d && sameAll cs ds
  | _, _ => false

end

instance : BEq Column := ⟨same⟩

end Column

end HashJoin
