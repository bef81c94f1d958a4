import HashJoin.Batch
import HashJoin.Budget
import HashJoin.Error.Join

/-!
# The build store

The store keeps the batches of the build side and gives their rows back by reference. A batch is
taken only if it is dense, small enough to be addressed, and of the schema of the store. An operation
that is refused changes nothing.

## Main definitions

* `BuildStore`, `BuildStore.captureSchema`, `BuildStore.absorb`, `BuildStore.clear`.
* `BuildStore.inspect` — why a batch is not taken.
* `BuildStore.row` — the batch and the place of a reference.
-/

namespace HashJoin

/-- The stored batches of the build side. -/
structure BuildStore where
  /-- The schema of the batches, once it is known. -/
  schema : Option Schema
  /-- The batches, in order of arrival. -/
  batches : Array Batch
  /-- Number of rows of all batches. -/
  rowCount : Nat
  /-- Bytes reserved for the batches. -/
  reservedBytes : Nat

namespace BuildStore

/-- The most batches that can be addressed. -/
def maxBatches : Nat := UInt32.size

/-- The store without batches. -/
def empty : BuildStore := ⟨none, #[], 0, 0⟩

/-- Sets the schema, which can be replaced only while there are no batches. -/
def captureSchema (s : BuildStore) (schema : Schema) : Except JoinError BuildStore :=
  if s.batches.isEmpty then .ok { s with schema := some schema }
  else .error (.internal .schemaFixed)

/-- Accepts a batch that can be stored, and says why another cannot. -/
def inspect (s : BuildStore) (batch : Batch) : Except JoinError Unit :=
  if !batch.isDense then .error (.unsupported .build .selection)
  else if maxBatchRows < batch.rowCount then
    .error (.unsupported .build (.batchRows batch.rowCount))
  else match s.schema with
    | none => .ok ()
    | some expected =>
      if batch.conforms expected then .ok ()
      else .error (.schemaChanged .build expected batch.schema)

/-- The index that the next batch will have. -/
def nextIndex (s : BuildStore) : Nat := s.batches.size

/-- Stores a batch, and says which index it has. The first batch fixes the schema if nothing else
has. -/
def absorb (s : BuildStore) (batch : Batch) (budget : Budget) :
    Except JoinError (Nat × BuildStore × Budget) := do
  s.inspect batch
  if maxBatches ≤ s.nextIndex then throw (.unsupported .build .batchCount)
  let bytes := batch.memorySize
  let budget ← (budget.reserve bytes).mapError (.ofRefusal .batch)
  return (s.nextIndex, {
    schema := s.schema.or (some batch.schema)
    batches := s.batches.push batch
    rowCount := s.rowCount + batch.rowCount
    reservedBytes := s.reservedBytes + bytes }, budget)

/-- The batch at an index. -/
def batch? (s : BuildStore) (index : Nat) : Option Batch := s.batches[index]?

/-- The batch of a reference, and the place of the row in it. -/
def row (s : BuildStore) (ref : RowRef) : Except JoinError (Batch × Nat) :=
  match s.batch? ref.batch with
  | some batch =>
    if ref.row < batch.rowCount then .ok (batch, ref.row) else .error (.internal (.danglingRow ref))
  | none => .error (.internal (.danglingRow ref))

/-- Drops all batches and gives their bytes back. The schema stays. -/
def clear (s : BuildStore) (budget : Budget) : BuildStore × Budget :=
  ({ s with batches := #[], rowCount := 0, reservedBytes := 0 }, budget.release s.reservedBytes)

end BuildStore

end HashJoin
