import HashJoin.BuildSide
import HashJoin.Checked.Rows
import HashJoin.Checked.Table

/-!
# The checked build phase

The build phase keeps the table with the operator and the keys with itself, and either may be lacking. A
batch with rows resolves the keys and creates the table if there is none; then both have to be there. The
schema of the first batch is captured, that of the first batch with rows supersedes it, and a schema that
the source has announced is captured at the end if there is none. Whether the store may take a schema is
checked each time.

## Main definitions

* `Filling` — a build side that is being filled, without the keys.
* `Checked.insertRows`, `Checked.insertBatch`, `Checked.accept` — the rows of a batch, and a batch.
* `Checked.drain`, `Checked.settleKeys`, `Checked.fillBuild` — all batches, what follows, and both.
-/

namespace HashJoin

/-- A build side that is being filled. -/
structure Filling where
  /-- Slots by hash. -/
  table : Option SlotTable
  /-- Rows by slot. -/
  ledger : MatchLedger
  /-- The rows. -/
  store : BuildStore
  /-- The memory of the join. -/
  budget : Budget
  /-- The counters of the join. -/
  metrics : Metrics

namespace Checked

/-! ### One batch -/

/-- Inserts and links the rows of a batch from one row on, up to the first that is refused. -/
def insertRows (keys : JoinKeys) (batch : Batch) (index row : Nat) (table : SlotTable)
    (ledger : MatchLedger) (budget : Budget) :
    Checked (Except JoinError Unit × SlotTable × MatchLedger × Budget) :=
  if row < batch.rowCount then do
    let hash ← hashRow keys.build batch row
    match ← insert table hash budget with
    | (.error e, table, budget) => return (.error (e.toJoinError .entry), table, ledger, budget)
    | (.ok slot, table, budget) =>
      match RowRef.of? index row with
      | none => defect (.unsupported .build (.rowAddress row))
      | some ref =>
        match ← link ledger slot ref budget with
        | (.error e, ledger, budget) => return (.error e, table, ledger, budget)
        | (.ok (), ledger, budget) => insertRows keys batch index (row + 1) table ledger budget
  else return (.ok (), table, ledger, budget)
  termination_by batch.rowCount - row

/-- Inserts the rows of a batch into the table, which has to be there, and stores it. -/
def insertBatch (f : Filling) (keys : JoinKeys) (batch : Batch) :
    Checked (Except JoinError Unit × Filling) :=
  match f.table with
  | none => defect (.internal .missingBuildTable)
  | some table => do
    let (result, table, ledger, budget) ←
      insertRows keys batch (nextIndex f.store) 0 table f.ledger f.budget
    let f := { f with table := some table, ledger := ledger, budget := budget }
    match result with
    | .error e => return (.error e, f)
    | .ok () =>
      match ← absorb f.store batch f.budget with
      | .error e => return (.error e, f)
      | .ok (_, store, budget) =>
        return (.ok (), { f with
          store := store
          budget := budget
          metrics := f.metrics.recordBuild batch.rowCount })

/-- Resolves the keys and creates the table, unless there is a table. -/
def openTable (config : Config) (probeSchema : Option Schema) (keys : Option JoinKeys) (f : Filling) :
    Checked (Except JoinError (Option JoinKeys × Filling)) :=
  match f.table with
  | some _ => return .ok (keys, f)
  | none => do
    match ← resolve config.conditions f.store.schema probeSchema with
    | .error e => return .error e
    | .ok resolved =>
      match SlotTable.create config.minBuckets config.loadFactor f.budget with
      | .error e => return .error (e.toJoinError .table)
      | .ok (table, budget) =>
        return .ok (some resolved, { f with table := some table, budget := budget })

/-- The store with the schema of a batch, if it has none. -/
def noteFirst (s : BuildStore) (batch : Batch) : Checked BuildStore :=
  if s.schema.isNone then captureSchema s batch.schema else return s

/-- The store with the schema of a batch that has rows, if there are no batches and another schema. -/
def supersede (s : BuildStore) (batch : Batch) : Checked BuildStore :=
  if s.batches.isEmpty && s.schema.any fun schema => !batch.conforms schema then
    captureSchema s batch.schema
  else return s

/-- Takes one batch in. The result holds the keys, if there are any by then. -/
def accept (config : Config) (probeSchema : Option Schema) (keys : Option JoinKeys) (f : Filling)
    (batch : Batch) : Checked (Except JoinError (Option JoinKeys) × Filling) := do
  let store ← noteFirst f.store batch
  if batch.rowCount = 0 then return (.ok keys, { f with store := store })
  else
    let store ← supersede store batch
    let f := { f with store := store }
    match f.store.inspect batch with
    | .error e => return (.error e, f)
    | .ok () =>
      match ← openTable config probeSchema keys f with
      | .error e => return (.error e, f)
      | .ok (none, _) => defect (.internal .unresolvedKeys)
      | .ok (some keys, f) =>
        match ← insertBatch f keys batch with
        | (.error e, f) => return (.error e, f)
        | (.ok (), f) => return (.ok (some keys), f)

/-! ### The whole source -/

/-- Takes in all batches that a source still delivers. -/
def drain {σ : Type} [BatchSource σ] (config : Config) (probeSchema : Option Schema) (source : σ)
    (keys : Option JoinKeys) (f : Filling) :
    Checked (Except JoinError (Option JoinKeys) × σ × Filling) :=
  match pulled : BatchSource.pull .build source with
  | (.error e, source) => return (.error e, source, f)
  | (.ok none, source) => return (.ok keys, source, f)
  | (.ok (some batch), rest) => do
    have : BatchSource.pullsLeft rest < BatchSource.pullsLeft source :=
      BatchSource.pullsLeft_of_pull pulled
    match ← accept config probeSchema keys f batch with
    | (.error e, f) => return (.error e, rest, f)
    | (.ok keys, f) => drain config probeSchema rest keys f
  termination_by BatchSource.pullsLeft source

/-- The store with the schema that the source has announced, if it has none. -/
def captureDeclared (s : BuildStore) (declared : Option Schema) : Checked BuildStore :=
  match s.schema, declared with
  | none, some schema => captureSchema s schema
  | _, _ => return s

/-- Settles the schema and the keys when there are no more batches. -/
def settleKeys (config : Config) (declared probeSchema : Option Schema) (keys : Option JoinKeys)
    (f : Filling) : Checked (Except JoinError JoinKeys × Filling) := do
  let store ← captureDeclared f.store declared
  let f := { f with store := store }
  match keys with
  | some keys => return (.ok keys, f)
  | none =>
    let resolved ← resolve config.conditions f.store.schema probeSchema
    return (resolved, f)

/-- Takes in a batch that was pulled in advance, if there is one. There are no keys yet. -/
def acceptFirst (config : Config) (probeSchema : Option Schema) (first : Option Batch) (f : Filling) :
    Checked (Except JoinError (Option JoinKeys) × Filling) :=
  match first with
  | some batch => accept config probeSchema none f batch
  | none => return (.ok none, f)

/-- Fills the build side: takes in the batch that was pulled in advance, and then all others. The
result holds the keys. -/
def fillBuild {σ : Type} [BatchSource σ] (config : Config) (probeSchema : Option Schema)
    (first : Option Batch) (source : σ) (f : Filling) :
    Checked (Except JoinError JoinKeys × σ × Filling) := do
  match ← acceptFirst config probeSchema first f with
  | (.error e, f) => return (.error e, source, f)
  | (.ok keys, f) =>
    match ← drain config probeSchema source keys f with
    | (.error e, source, f) => return (.error e, source, f)
    | (.ok keys, source, f) =>
      let (resolved, f) ← settleKeys config (BatchSource.schema? source) probeSchema keys f
      return (resolved, source, f)

end Checked
end HashJoin
