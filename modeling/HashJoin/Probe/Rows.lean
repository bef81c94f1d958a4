import HashJoin.BuildSide
import HashJoin.Probe.Cursor
import HashJoin.RowWriter

/-!
# Probing the rows of a batch

A probe row is looked up in the table, and the candidates of its chain are compared by key. Every
match makes an output row; a row without one is kept if the kind of join says so. The work stops as
soon as the output batch is full, and the cursor then says where.

## Main definitions

* `ProbePlan` — what probing is to do.
* `ProbeFrame` — all that stays the same while the rows of one batch are walked.
* `Emission` — what output rows act on.
* `ProbeFrame.tryCandidate`, `ProbeFrame.walkChain`, `ProbeFrame.probeRow`, `ProbeFrame.probeRows` —
  a candidate, a chain, a row, and all rows.
-/

namespace HashJoin

/-- What probing is to do. -/
structure ProbePlan where
  /-- Which rows without a match are kept. -/
  joinType : JoinType
  /-- The keys. -/
  keys : JoinKeys
  /-- The columns of output rows. -/
  output : OutputSchema
  /-- The most rows of an output batch. -/
  batchRows : Nat

/-- What output rows act on. -/
structure Emission where
  /-- The rows of the output batch. -/
  writer : RowWriter
  /-- The build rows that have been matched. -/
  ledger : MatchLedger

/-- What stays the same while the rows of a probe batch are walked. -/
structure ProbeFrame where
  /-- What is to be done. -/
  plan : ProbePlan
  /-- The table; absent if there are no build rows. -/
  table : Option SlotTable
  /-- The build rows. -/
  store : BuildStore
  /-- The probe batch. -/
  batch : Batch

/-- The build row of a slot. -/
def BuildStore.slotRow (store : BuildStore) (ledger : MatchLedger) (slot : Nat) :
    Except JoinError BatchRow :=
  match ledger.rowRef? slot with
  | none => .error (.internal (.unlinkedSlot slot))
  | some ref => store.row ref

namespace Emission

/-- Writes an output row. -/
def write : Emission → Option BatchRow → Option BatchRow → Except JoinError Unit × Emission
  | ⟨writer, ledger⟩, build, probe =>
    match writer.append build probe with
    | (.error e, writer) => (.error (.format e), ⟨writer, ledger⟩)
    | (.ok (), writer) => (.ok (), ⟨writer, ledger⟩)

/-- Marks the build row of a slot as matched. -/
def mark : Emission → Nat → Emission
  | ⟨writer, ledger⟩, slot => ⟨writer, (ledger.mark slot).2⟩

end Emission

namespace ProbeFrame

/-- Whether the output batch has all the rows that it may have. -/
def isFull (f : ProbeFrame) (out : Emission) : Bool := f.plan.batchRows ≤ out.writer.rows

/-- Looks a row up: its hash, and the first slot of its chain. A row that cannot match has none. -/
def lookUp (f : ProbeFrame) (row : Nat) : UInt32 × ChainPosition :=
  match f.table with
  | none => (0, .exhausted)
  | some table =>
    if f.plan.keys.canMatch f.batch row then
      let hash := f.plan.keys.hashProbe f.batch row
      (hash, ((table.first? hash).map ChainPosition.slot).getD .exhausted)
    else (0, .exhausted)

/-- Compares a row with the build row of a slot. A match makes an output row, and marks the slot. -/
def tryCandidate (f : ProbeFrame) (row slot : Nat) (out : Emission) :
    Except JoinError Bool × Emission :=
  match f.store.slotRow out.ledger slot with
  | .error e => (.error e, out)
  | .ok (build, buildRow) =>
    if f.plan.keys.keysEqual f.batch row build buildRow then
      match out.write (some (build, buildRow)) (some (f.batch, row)) with
      | (.error e, out) => (.error e, out)
      | (.ok (), out) => (.ok true, out.mark slot)
    else (.ok false, out)

/-- Walks the chain of a row from a slot on, and writes a row for every match, until the output
batch is full. The result says where the walk stopped and whether the row has been matched. -/
def walkChain (f : ProbeFrame) (table : SlotTable) (row : Nat) (hash : UInt32) (slot : Nat)
    (rowMatched : Bool) (out : Emission) :
    Except JoinError Unit × ChainPosition × Bool × Emission :=
  if f.isFull out then (.ok (), .slot slot, rowMatched, out)
  else match f.tryCandidate row slot out with
    | (.error e, out) => (.error e, .slot slot, rowMatched, out)
    | (.ok isMatch, out) =>
      match found : table.next? slot hash with
      | none => (.ok (), .exhausted, rowMatched || isMatch, out)
      | some later =>
        have := SlotTable.bounds_of_next? found
        f.walkChain table row hash later (rowMatched || isMatch) out
  termination_by table.length - slot

/-- Completes a row whose chain has been walked: without a match it is kept if the kind of join says
so and the output batch has room. -/
def completeRow (f : ProbeFrame) (cursor : Cursor) (out : Emission) :
    Except JoinError Unit × Cursor × Emission :=
  if !cursor.rowMatched && f.plan.joinType.keepsProbe then
    if f.isFull out then (.ok (), cursor, out)
    else match out.write none (some (f.batch, cursor.row)) with
      | (.error e, out) => (.error e, cursor, out)
      | (.ok (), out) => (.ok (), cursor.nextRow, out)
  else (.ok (), cursor.nextRow, out)

/-- The cursor once its row has been looked up. -/
def beginRow (f : ProbeFrame) (cursor : Cursor) : Cursor :=
  match cursor.chain with
  | .unstarted =>
    let (hash, chain) := f.lookUp cursor.row
    { cursor with hash := hash, chain := chain }
  | .slot _ | .exhausted => cursor

/-- Works on a row that has been looked up, as far as the output batch has room. -/
def continueRow (f : ProbeFrame) (cursor : Cursor) (out : Emission) :
    Except JoinError Unit × Cursor × Emission :=
  match cursor.chain with
  | .unstarted | .exhausted => f.completeRow cursor out
  | .slot slot =>
    match f.table with
    | none =>
      if f.isFull out then (.ok (), cursor, out)
      else (.error (.internal .missingTable), cursor, out)
    | some table =>
      match f.walkChain table cursor.row cursor.hash slot cursor.rowMatched out with
      | (.error e, chain, rowMatched, out) =>
        (.error e, { cursor with chain := chain, rowMatched := rowMatched }, out)
      | (.ok (), .exhausted, rowMatched, out) =>
        f.completeRow { cursor with chain := .exhausted, rowMatched := rowMatched } out
      | (.ok (), chain, rowMatched, out) =>
        (.ok (), { cursor with chain := chain, rowMatched := rowMatched }, out)

/-- Works on the row of the cursor, as far as the output batch has room. -/
def probeRow (f : ProbeFrame) (cursor : Cursor) (out : Emission) :
    Except JoinError Unit × Cursor × Emission :=
  f.continueRow (f.beginRow cursor) out

/-- Works on the rows of the batch from the cursor on, until the output batch is full. -/
def probeRows (f : ProbeFrame) (cursor : Cursor) (out : Emission) :
    Except JoinError Unit × Cursor × Emission :=
  if cursor.row < f.batch.rowCount && !f.isFull out then
    match f.probeRow cursor out with
    | (.error e, cursor, out) => (.error e, cursor, out)
    | (.ok (), reached, out) =>
      if cursor.row < reached.row then f.probeRows reached out else (.ok (), reached, out)
  else (.ok (), cursor, out)
  termination_by f.batch.rowCount - cursor.row
  decreasing_by simp_all; omega

end ProbeFrame

end HashJoin
