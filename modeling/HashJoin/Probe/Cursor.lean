/-!
# The probe cursor

Output comes in batches of limited size, so probing has to stop in the middle of anything. A cursor
holds the exact place: the probe row, the next candidate of its chain, whether the row has been
matched, and the stage.

## Main definitions

* `ChainPosition`, `Phase`, `Cursor`.
* `Cursor.start`, `Cursor.enterBatch`, `Cursor.nextRow` — its steps.
-/

namespace HashJoin

/-- The place within the chain of a probe row. -/
inductive ChainPosition
  /-- The row has not been looked up. -/
  | unstarted
  /-- The next candidate is this slot. -/
  | slot (s : Nat)
  /-- There are no more candidates. -/
  | exhausted
  deriving DecidableEq

/-- The stage of probing. -/
inductive Phase
  /-- Walking probe rows. -/
  | probing
  /-- Keeping build rows that were never matched, from this slot on. -/
  | unmatched (slot : Nat)
  /-- There is nothing left. -/
  | done
  deriving DecidableEq

/-- The place that probing has reached. -/
structure Cursor where
  /-- The number of the probe batch, counted from one; zero before the first. -/
  batchNumber : Nat
  /-- The row of the batch. -/
  row : Nat
  /-- The hash of the row, once it has been looked up. -/
  hash : UInt32
  /-- The place within the chain of the row. -/
  chain : ChainPosition
  /-- Whether the row has been matched. -/
  rowMatched : Bool
  /-- The stage. -/
  phase : Phase
  deriving DecidableEq

namespace Cursor

/-- The place before all rows. -/
def start : Cursor := ⟨0, 0, 0, .unstarted, false, .probing⟩

/-- The first row of the next batch. -/
def enterBatch (c : Cursor) : Cursor := ⟨c.batchNumber + 1, 0, 0, .unstarted, false, c.phase⟩

/-- The next row of the batch. -/
def nextRow (c : Cursor) : Cursor := ⟨c.batchNumber, c.row + 1, 0, .unstarted, false, c.phase⟩

end Cursor

end HashJoin
