import HashJoin.Checked.Rows
import HashJoin.Checked.Table
import HashJoin.Probe

/-!
# Checked probing

An output batch is made in one loop. While probe rows are being walked, a round of it fetches the next
batch if there is none or if the current one is done with, and else works on one row; then a round writes
one build row that was never matched. The loop ends when the output batch is full or nothing is left. A
probe row has to have a batch, a candidate a table, and a slot a build row.

## Main definitions

* `Checked.beginRow`, `Checked.tryCandidate`, `Checked.walkRow`, `Checked.probeRow` — the row of a cursor.
* `Checked.fillRound`, `Checked.fill`, `Checked.nextOutput` — a round of the loop, the loop, and an output
  batch.
-/

namespace HashJoin

/-- Whether there is no row to walk in the current batch. -/
def Probe.needsBatch (p : Probe) : Bool := p.current.all fun batch => batch.rowCount ≤ p.cursor.row

namespace Checked

/-! ### Probe rows -/

/-- Writes an output row. -/
def writeRow (out : Emission) (build probe : Option BatchRow) :
    Checked (Except JoinError Unit × Emission) := do
  match ← append out.writer build probe with
  | (.error e, writer) => return (.error (.format e), { out with writer := writer })
  | (.ok (), writer) => return (.ok (), { out with writer := writer })

/-- Looks a row up: its hash, and the first slot of its chain. -/
def lookUp (f : ProbeFrame) (row : Nat) : Checked (UInt32 × ChainPosition) :=
  match f.table with
  | none => return (0, .exhausted)
  | some table => do
    if ← canMatch f.plan.keys f.batch row then
      let hash ← hashRow f.plan.keys.probe f.batch row
      let found ← first table hash
      return (hash, (found.map ChainPosition.slot).getD .exhausted)
    else return (0, .exhausted)

/-- The cursor once its row has been looked up. -/
def beginRow (f : ProbeFrame) (cursor : Cursor) : Checked Cursor :=
  match cursor.chain with
  | .unstarted => do
    let (hash, chain) ← lookUp f cursor.row
    return { cursor with hash := hash, chain := chain }
  | .slot _ | .exhausted => return cursor

/-- Compares a row with the build row of a slot. -/
def tryCandidate (f : ProbeFrame) (row slot : Nat) (out : Emission) :
    Checked (Except JoinError Bool × Emission) := do
  let (build, buildRow) ← slotRow f.store out.ledger slot
  if ← keysEqual f.plan.keys f.batch row build buildRow then
    match ← writeRow out (some (build, buildRow)) (some (f.batch, row)) with
    | (.error e, out) => return (.error e, out)
    | (.ok (), out) =>
      let ledger ← mark out.ledger slot
      return (.ok true, { out with ledger := ledger })
  else return (.ok false, out)

/-- Completes a row whose chain has been walked. -/
def completeRow (f : ProbeFrame) (cursor : Cursor) (out : Emission) :
    Checked (Except JoinError Unit × Cursor × Emission) :=
  if !cursor.rowMatched && f.plan.joinType.keepsProbe then
    if f.isFull out then return (.ok (), cursor, out)
    else do
      match ← writeRow out none (some (f.batch, cursor.row)) with
      | (.error e, out) => return (.error e, cursor, out)
      | (.ok (), out) => return (.ok (), cursor.nextRow, out)
  else return (.ok (), cursor.nextRow, out)

/-- One round of the work on a row: the next candidate of its chain, or what follows the last. -/
def walkRound (f : ProbeFrame) : Cursor × Emission →
    Checked (Cursor × Emission ⊕ (Except JoinError Unit × Cursor × Emission))
  | (cursor, out) =>
    match cursor.chain with
    | .unstarted | .exhausted => do
      let completed ← completeRow f cursor out
      return .inr completed
    | .slot slot =>
      if f.isFull out then return .inr (.ok (), cursor, out)
      else match f.table with
        | none => defect (.internal .missingTable)
        | some table => do
          match ← tryCandidate f cursor.row slot out with
          | (.error e, out) => return .inr (.error e, cursor, out)
          | (.ok isMatch, out) =>
            let later ← next table slot cursor.hash
            return .inl ({ cursor with
              chain := (later.map ChainPosition.slot).getD .exhausted
              rowMatched := cursor.rowMatched || isMatch }, out)

/-- Walks the chain of the row of a cursor while there are candidates, and then completes the row. -/
def walkRow (f : ProbeFrame) (cursor : Cursor) (out : Emission) :
    Checked (Except JoinError Unit × Cursor × Emission) :=
  have : Nonempty (Except JoinError Unit × Cursor × Emission) := ⟨.ok (), cursor, out⟩
  repeatM (walkRound f) (cursor, out)

/-- Works on the row of the cursor, which has to be one of a batch. -/
def probeRow (table : Option SlotTable) (store : BuildStore) (p : Probe) (out : Emission) :
    Checked (Except JoinError Unit × Probe × Emission) :=
  match p.current with
  | none => defect (.internal .missingProbeBatch)
  | some batch => do
    let frame : ProbeFrame := ⟨p.plan, table, store, batch⟩
    let cursor ← beginRow frame p.cursor
    let (result, cursor, out) ← walkRow frame cursor out
    return (result, { p with cursor := cursor }, out)

/-! ### Output batches -/

variable {σ : Type} [BatchSource σ]

/-- One round of an output batch: a batch is fetched, a row is worked on, or a build row that was never
matched is written. -/
def fillRound (table : Option SlotTable) (store : BuildStore) :
    Probe × σ × Metrics × Emission → Checked (Probe × σ × Metrics × Emission ⊕
      (Except JoinError Unit × Probe × σ × Metrics × Emission))
  | (p, source, metrics, out) =>
    if p.plan.batchRows ≤ out.writer.rows then return .inr (.ok (), p, source, metrics, out)
    else match p.cursor.phase with
      | .done => return .inr (.ok (), p, source, metrics, out)
      | .probing =>
        if p.needsBatch then
          match p.supply.nextBatch source metrics with
          | (.error e, supply, source, metrics) =>
            return .inr (.error e, { p with supply := supply }, source, metrics, out)
          | (.ok none, supply, source, metrics) =>
            let cursor := { p.cursor with phase := p.afterInput }
            return .inl (⟨p.plan, supply, none, cursor⟩, source, metrics, out)
          | (.ok (some batch), supply, source, metrics) =>
            return .inl (⟨p.plan, supply, some batch, p.cursor.enterBatch⟩, source, metrics, out)
        else do
          match ← probeRow table store p out with
          | (.error e, p, out) => return .inr (.error e, p, source, metrics, out)
          | (.ok (), p, out) => return .inl (p, source, metrics, out)
      | .unmatched slot => do
        match ← nextUnmatched out.ledger slot with
        | none =>
          return .inl ({ p with cursor := { p.cursor with phase := .done } }, source, metrics, out)
        | some free =>
          let row ← slotRow store out.ledger free
          match ← writeRow out (some row) none with
          | (.error e, out) => return .inr (.error e, p, source, metrics, out)
          | (.ok (), out) =>
            let cursor := { p.cursor with phase := .unmatched (free + 1) }
            return .inl ({ p with cursor := cursor }, source, metrics, out)

/-- Fills an output batch, as far as there are rows. -/
def fill (table : Option SlotTable) (store : BuildStore) (p : Probe) (source : σ)
    (metrics : Metrics) (out : Emission) :
    Checked (Except JoinError Unit × Probe × σ × Metrics × Emission) :=
  have : Nonempty (Except JoinError Unit × Probe × σ × Metrics × Emission) :=
    ⟨.ok (), p, source, metrics, out⟩
  repeatM (fillRound table store) (p, source, metrics, out)

/-- The next output batch, or none once every row has been written. -/
def nextOutput (table : Option SlotTable) (store : BuildStore) (ledger : MatchLedger) (p : Probe)
    (source : σ) (metrics : Metrics) :
    Checked (Except JoinError (Option Batch) × Probe × MatchLedger × σ × Metrics) := do
  let writer ← openWriter p.plan.output
  match ← fill table store p source metrics ⟨writer, ledger⟩ with
  | (.error e, p, source, metrics, out) => return (.error e, p, out.ledger, source, metrics)
  | (.ok (), p, source, metrics, out) =>
    return (Probe.collect out.writer, p, out.ledger, source, metrics)

end Checked
end HashJoin
