import HashJoin.Probe.Rows
import HashJoin.Probe.Supply

/-!
# Probing

Probing walks the probe batches in order and then, if the kind of join says so, the build rows that
were never matched. Each call makes one output batch of limited size, and the next call continues
where that one was full.

## Main definitions

* `Probe`, `Probe.ofPlan` — probing between two output batches.
* `Probe.nextOutput` — the next output batch.
* `Probe.rowsLeft` — a bound on the output rows still to come.
-/

namespace HashJoin

/-- Probing, between two output batches. -/
structure Probe where
  /-- What is to be done. -/
  plan : ProbePlan
  /-- The batches still to come. -/
  supply : Supply
  /-- The batch that is being walked. -/
  current : Option Batch
  /-- The place that has been reached. -/
  cursor : Cursor

namespace Probe

/-- Probing before its first row. -/
def ofPlan (plan : ProbePlan) (supply : Supply) : Probe := ⟨plan, supply, none, .start⟩

/-- Whether there is nothing left. -/
def isDone (p : Probe) : Bool := p.cursor.phase = .done

/-! ### Probe rows -/

/-- Works on the current batch, if there is one, until it or the output batch ends. -/
def probeCurrent (table : Option SlotTable) (store : BuildStore) (p : Probe) (out : Emission) :
    Except JoinError Unit × Probe × Emission :=
  match p.current with
  | none => (.ok (), p, out)
  | some batch =>
    match ProbeFrame.probeRows ⟨p.plan, table, store, batch⟩ p.cursor out with
    | (result, cursor, out) => (result, { p with cursor := cursor }, out)

theorem supply_of_probeCurrent {table : Option SlotTable} {store : BuildStore} {p q : Probe}
    {out out' : Emission} {result : Except JoinError Unit}
    (h : probeCurrent table store p out = (result, q, out')) : q.supply = p.supply := by
  unfold probeCurrent at h
  split at h
  · cases h
    rfl
  · cases h
    rfl

/-- The stage behind the last probe row. -/
def afterInput (p : Probe) : Phase := if p.plan.joinType.keepsBuild then .unmatched 0 else .done

variable {σ : Type} [BatchSource σ]

/-- Works on one probe batch after the other, until the output batch is full or there are no more
batches. -/
def probeInput (table : Option SlotTable) (store : BuildStore) (p : Probe) (source : σ)
    (metrics : Metrics) (out : Emission) :
    Except JoinError Unit × Probe × σ × Metrics × Emission :=
  match worked : probeCurrent table store p out with
  | (.error e, p, out) => (.error e, p, source, metrics, out)
  | (.ok (), q, out) =>
    if q.plan.batchRows ≤ out.writer.rows then (.ok (), q, source, metrics, out)
    else match fetched : q.supply.nextBatch source metrics with
      | (.error e, supply, source, metrics) =>
        (.error e, { q with supply := supply }, source, metrics, out)
      | (.ok none, supply, source, metrics) =>
        let cursor := { q.cursor with phase := q.afterInput }
        (.ok (), ⟨q.plan, supply, none, cursor⟩, source, metrics, out)
      | (.ok (some batch), supply, source', metrics) =>
        have : supply.batchesLeft source' < p.supply.batchesLeft source := by
          rw [← supply_of_probeCurrent worked]
          exact Supply.batchesLeft_of_nextBatch fetched
        let next : Probe := ⟨q.plan, supply, some batch, q.cursor.enterBatch⟩
        next.probeInput table store source' metrics out
  termination_by p.supply.batchesLeft source

/-! ### Build rows that were never matched -/

/-- Writes the build rows that were never matched, from a slot on, until the output batch is full.
The result says which stage has been reached. -/
def sweep (store : BuildStore) (ledger : MatchLedger) (batchRows slot : Nat) (writer : RowWriter) :
    Except JoinError Unit × Phase × RowWriter :=
  if batchRows ≤ writer.rows then (.ok (), .unmatched slot, writer)
  else match found : ledger.nextUnmatched? slot with
    | none => (.ok (), .done, writer)
    | some free =>
      have := MatchLedger.bounds_of_nextUnmatched? found
      match store.slotRow ledger free with
      | .error e => (.error e, .unmatched slot, writer)
      | .ok row =>
        match writer.append (some row) none with
        | (.error e, writer) => (.error (.format e), .unmatched slot, writer)
        | (.ok (), writer) => sweep store ledger batchRows (free + 1) writer
  termination_by ledger.length - slot

/-! ### Output batches -/

/-- Works on the probe rows, unless that stage is over. -/
def probeStage (table : Option SlotTable) (store : BuildStore) (p : Probe) (source : σ)
    (metrics : Metrics) (out : Emission) :
    Except JoinError Unit × Probe × σ × Metrics × Emission :=
  match p.cursor.phase with
  | .probing => p.probeInput table store source metrics out
  | .unmatched _ | .done => (.ok (), p, source, metrics, out)

/-- Fills an output batch, as far as there are rows. -/
def fill (table : Option SlotTable) (store : BuildStore) (p : Probe) (source : σ)
    (metrics : Metrics) (out : Emission) :
    Except JoinError Unit × Probe × σ × Metrics × Emission :=
  let (result, p, source, metrics, out) := p.probeStage table store source metrics out
  match result, p.cursor.phase with
  | .ok (), .unmatched slot =>
    match out with
    | ⟨writer, ledger⟩ =>
      match sweep store ledger p.plan.batchRows slot writer with
      | (result, phase, writer) =>
        (result, { p with cursor := { p.cursor with phase := phase } }, source, metrics,
          ⟨writer, ledger⟩)
  | result, _ => (result, p, source, metrics, out)

/-- The batch of the rows written, if there are any. -/
def collect (writer : RowWriter) : Except JoinError (Option Batch) :=
  if writer.rows = 0 then .ok none
  else match writer.finish with
    | .error e => .error (.format e)
    | .ok batch => .ok (some batch)

/-- The next output batch, or none once every row has been written. Rows that were written before an
error are lost. -/
def nextOutput (table : Option SlotTable) (store : BuildStore) (ledger : MatchLedger) (p : Probe)
    (source : σ) (metrics : Metrics) :
    Except JoinError (Option Batch) × Probe × MatchLedger × σ × Metrics :=
  if p.plan.batchRows = 0 then (.ok none, p, ledger, source, metrics)
  else match p.fill table store source metrics ⟨.ofSchema p.plan.output, ledger⟩ with
    | (.error e, p, source, metrics, out) => (.error e, p, out.ledger, source, metrics)
    | (.ok (), p, source, metrics, out) =>
      (collect out.writer, p, out.ledger, source, metrics)

/-! ### A bound on the output -/

/-- The most output rows that the current batch can still make, of `buildRows` build rows. The row of
the cursor can match every slot that its chain has not passed, or be kept without a match. -/
def currentRowsLeft (p : Probe) (buildRows : Nat) : Nat :=
  match p.current with
  | none => 0
  | some batch =>
    if p.cursor.row < batch.rowCount then
      let onRow := match p.cursor.chain with
        | .unstarted => buildRows + 1
        | .slot slot => buildRows - slot + 1
        | .exhausted => 1
      onRow + (batch.rowCount - p.cursor.row - 1) * (buildRows + 1)
    else 0

/-- A bound on the output rows still to come, given a bound on the rows of the source and the number
of build rows. -/
def rowsLeft (p : Probe) (sourceRows buildRows : Nat) : Nat :=
  let waiting := (p.supply.pending.map Batch.rowCount).getD 0
  match p.cursor.phase with
  | .probing => p.currentRowsLeft buildRows + (waiting + sourceRows) * (buildRows + 1) + buildRows
  | .unmatched slot => buildRows - slot
  | .done => 0

end Probe

end HashJoin
