import HashJoin.Error.Format

/-!
# Validity bitmaps

A validity bitmap says for each row of a column whether it holds a value. Rows are packed eight to a
byte, the first in the lowest bit; a set bit is a present value. The bytes are kept as they were
given, so bits past the last row, and bytes past the last needed, may be anything, and two bitmaps
are equal only if they agree there as well.

## Main definitions

* `Validity` — a bitmap with at least the bytes that its rows need.
* `Validity.allValid`, `Validity.ofBytes`, `Validity.empty`, `Validity.reserving`, `Validity.push` — its
  makers.
* `Validity.isValid`, `Validity.nullCount` — its readings.
-/

namespace HashJoin

/-- A bitmap with one bit for each row. -/
structure Validity where
  /-- The packed bits. -/
  bytes : Array UInt8
  /-- Number of rows. -/
  length : Nat
  /-- Each row has a bit. -/
  covers : (length + 7) / 8 ≤ bytes.size
  deriving DecidableEq

namespace Validity

/-- Bytes that the bits of `rows` rows take. -/
def bytesFor (rows : Nat) : Nat := (rows + 7) / 8

/-- The bitmap in which every row has a value; the bits past the last row are set too. -/
def allValid (rows : Nat) : Validity where
  bytes := Array.replicate (bytesFor rows) 0xFF
  length := rows
  covers := by simp [bytesFor]

/-- The bitmap of the given bytes, if there are enough of them. -/
def ofBytes (bytes : Array UInt8) (rows : Nat) : Except FormatError Validity :=
  if h : bytesFor rows ≤ bytes.size then .ok ⟨bytes, rows, h⟩
  else .error (.bitmapLength (bytesFor rows) bytes.size)

/-- The bitmap of no rows. -/
def empty : Validity := ⟨#[], 0, by simp⟩

/-- The bitmap of no rows, with room for some. -/
def reserving (room : Nat) : Validity := ⟨.emptyWithCapacity (bytesFor room), 0, by simp⟩

/-- Room is not part of a bitmap. -/
theorem reserving_eq_empty (room : Nat) : reserving room = empty := rfl

/-- The bit of a row within its byte. -/
def bitOf (row : Nat) : UInt8 := UInt8.ofNat (1 <<< (row % 8))

/-- The bitmap with one more row. A new byte starts out clear. -/
def push : Validity → Bool → Validity
  | ⟨bytes, length, covers⟩, valid =>
    let grown := if length / 8 = bytes.size then bytes.push 0 else bytes
    have grows : (length + 1 + 7) / 8 ≤ grown.size := by
      unfold grown
      split
      · rw [Array.size_push]; omega
      · omega
    if valid then
      ⟨grown.modify (length / 8) (· ||| bitOf length), length + 1, by simpa using grows⟩
    else ⟨grown, length + 1, grows⟩

/-- Whether a row has a value; a row past the end has none. -/
def isValid (v : Validity) (row : Nat) : Bool :=
  if h : row < v.length then
    have : row / 8 < v.bytes.size := by have := v.covers; omega
    v.bytes[row / 8].toNat.testBit (row % 8)
  else false

/-- Number of rows that have no value. -/
def nullCount (v : Validity) : Nat := (List.range v.length).countP (!v.isValid ·)

/-- The bitmap of a sequence of flags. -/
def ofList (flags : List Bool) : Validity := flags.foldl push empty

@[simp] theorem length_push (v : Validity) (valid : Bool) :
    (v.push valid).length = v.length + 1 := by
  cases valid <;> rfl

end Validity

end HashJoin
