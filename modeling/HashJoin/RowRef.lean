/-!
# Row references

A row reference names a row of the build side: the batch it came in, and its place there. Places
take sixteen bits, which limits the rows of a build batch.

## Main definitions

* `maxBatchRows` — the limit.
* `RowRef`, `RowRef.of?` — references, and the one for a batch and a row if the row is in range.
* `RowRef.le` — the order of stream positions.
-/

namespace HashJoin

/-- The most rows that a build batch may have; also the most that an output batch may have. -/
def maxBatchRows : Nat := UInt16.size

/-- The address of a build row. -/
structure RowRef where
  /-- The index of the batch, in order of arrival. -/
  batch : Nat
  /-- The row within the batch. -/
  row : Nat
  /-- The row is in range. -/
  row_lt : row < maxBatchRows
  deriving DecidableEq

namespace RowRef

/-- The reference to a row of a batch, if the row is in range. -/
def of? (batch row : Nat) : Option RowRef :=
  if h : row < maxBatchRows then some ⟨batch, row, h⟩ else none

/-- Whether one row comes no later in the stream than another. -/
def le (a b : RowRef) : Bool := a.batch < b.batch || (a.batch == b.batch && a.row ≤ b.row)

/-- The text of a reference. -/
def render (r : RowRef) : String := s!"{r.batch}:{r.row}"

end RowRef

end HashJoin
