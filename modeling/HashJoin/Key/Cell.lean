import HashJoin.Batch
import HashJoin.Digest.Xxh3
import HashJoin.Key.Family

/-!
# Key cells and their hashes

A key cell is what a cell is to a comparison: integers regardless of width, floats as 64-bit numbers
with one zero and one NaN, texts and byte sequences as bytes. The hash of a row runs a digest over
its key cells in order, each under a seed that the cells before it have made.

The digest is a parameter: nothing but the numbers of hashes depends on which one it is.

## Main definitions

* `KeyCell`, `Column.keyAt` — key cells, and the one of a row.
* `KeyColumn`, `rowHash` — the key columns of one side, and the hash of a row.
-/

namespace HashJoin

attribute [local instance] decideBytes

/-- What a cell is to a comparison. -/
inductive KeyCell
  /-- No value. -/
  | null
  /-- An integer. -/
  | integer (i : Int)
  /-- A floating-point number in canonical form. -/
  | float (x : Binary64)
  /-- The bytes of a text or byte sequence. -/
  | bytes (data : ByteArray)
  deriving DecidableEq

/-- The key cell of a present fixed-width cell. -/
def Cells.keyAt (cells : Cells) (row : Nat) : KeyCell :=
  match cells with
  | ints _ values => .integer (values.getD row 0)
  | singles values => .float (values.getD row .zero).convert.canonical
  | doubles values => .float (values.getD row .zero).canonical

/-- The key cell of a row. Records have none, and count as NULL. -/
def Column.keyAt (c : Column) (row : Nat) : KeyCell :=
  if c.isValid row then
    match c with
    | fixed _ _ buffer => buffer.cells.keyAt row
    | bytes _ _ _ slices => .bytes (slices.get row)
    | record .. => .null
  else .null

/-! ### Hashes -/

/-- A digest of bytes under a seed. -/
abbrev DigestFn := UInt64 → ByteArray → UInt64

/-- The eight bytes of a word, the lowest first. -/
def wordBytes (x : UInt64) : ByteArray := ⟨(Digest.bytesOf x).toArray⟩

namespace KeyCell

/-- A number that keeps the kinds of cells apart. -/
def tag : KeyCell → UInt64
  | null => 1
  | integer _ => 2
  | float _ => 3
  | bytes _ => 4

/-- The bytes of a cell: numbers take eight, integers in two's complement. -/
def content : KeyCell → ByteArray
  | null => .empty
  | integer i => wordBytes (UInt64.ofInt i)
  | float x => wordBytes (UInt64.ofNat x.pattern.toNat)
  | bytes data => data

/-- The seed after a cell. -/
def absorb (digest : DigestFn) (seed : UInt64) (cell : KeyCell) : UInt64 :=
  digest (seed ^^^ cell.tag) cell.content

end KeyCell

/-- A key column of one side. -/
structure KeyColumn where
  /-- The position of the column. -/
  index : Nat
  /-- The family of the column. -/
  family : KeyFamily
  deriving DecidableEq

/-- The key cell of a row in a key column. -/
def KeyColumn.cell (key : KeyColumn) (batch : Batch) (row : Nat) : KeyCell :=
  match batch.column? key.index with
  | some column => column.keyAt row
  | none => .null

/-- The seed of the first key cell. -/
def hashSeed : UInt64 := 0x9E3779B97F4A7C15

/-- A word folded to half its width. -/
def foldWord (x : UInt64) : UInt32 := (x ^^^ x >>> 32).toUInt32

/-- The hash of a row by its key columns. -/
def rowHash (digest : DigestFn) (keys : List KeyColumn) (batch : Batch) (row : Nat) : UInt32 :=
  foldWord (keys.foldl (fun seed key => (key.cell batch row).absorb digest seed) hashSeed)

end HashJoin
