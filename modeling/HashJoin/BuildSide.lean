import HashJoin.BuildStore
import HashJoin.Key.Resolved
import HashJoin.MatchLedger
import HashJoin.Metrics
import HashJoin.Source

/-!
# The build side

The build side of a join is a table that finds slots by hash, a ledger that finds rows by slot, and
a store that holds the rows. All three are filled from the build source, batch by batch: every row is
inserted and linked before its batch is stored.

The keys are resolved and the table is created when the first batch with rows arrives. Batches
without rows are passed over, but the schema of the first of them stands until rows arrive under
another one.

## Main definitions

* `BuildSide`, `BuildSide.clear` — the three parts, and their release.
* `Loading` — a build side that is being filled.
* `Loading.insertRows`, `Loading.accept`, `Loading.drain` — the rows of a batch, a batch, and all.
* `Loading.fill` — the whole build phase, which yields the keys.
-/

namespace HashJoin

/-- The stored rows of a join. -/
structure BuildSide where
  /-- Slots by hash; absent as long as there are no rows. -/
  table : Option SlotTable
  /-- Rows by slot. -/
  ledger : MatchLedger
  /-- The rows. -/
  store : BuildStore

namespace BuildSide

/-- A build side without rows. -/
def empty : BuildSide := ⟨none, .empty, .empty⟩

/-- Bytes reserved by all parts. -/
def reservedBytes (s : BuildSide) : Nat :=
  (s.table.map SlotTable.reservedBytes).getD 0 + s.ledger.reservedBytes + s.store.reservedBytes

/-- Drops all rows and gives the bytes of each part back. -/
def clear (s : BuildSide) (budget : Budget) : BuildSide × Budget :=
  let budget := match s.table with
    | some table => (table.clear budget).2
    | none => budget
  let (ledger, budget) := s.ledger.clear budget
  let (store, budget) := s.store.clear budget
  (⟨none, ledger, store⟩, budget)

end BuildSide

/-- The error of a join whose table refused a row. -/
def TableError.toJoinError (use : MemoryUse) : TableError → JoinError
  | retryAfterSpill refusal => .ofRefusal use refusal
  | slotsExhausted entries => .unsupported .build (.tableFull entries)

/-- A build side that is being filled. -/
structure Loading where
  /-- The table and the keys that it is filled by, once there are rows. -/
  table : Option (SlotTable × JoinKeys)
  /-- Rows by slot. -/
  ledger : MatchLedger
  /-- The rows. -/
  store : BuildStore
  /-- The memory of the join. -/
  budget : Budget
  /-- The counters of the join. -/
  metrics : Metrics

namespace Loading

/-- What has been filled so far. -/
def side (l : Loading) : BuildSide := ⟨l.table.map Prod.fst, l.ledger, l.store⟩

/-! ### One batch -/

/-- Inserts and links the rows of a batch from one row on, up to the first that is refused. -/
def insertRows (keys : JoinKeys) (batch : Batch) (index row : Nat) (table : SlotTable)
    (ledger : MatchLedger) (budget : Budget) :
    Except JoinError Unit × SlotTable × MatchLedger × Budget :=
  if row < batch.rowCount then
    match table.insert (keys.hashBuild batch row) budget with
    | (.error e, table, budget) => (.error (e.toJoinError .entry), table, ledger, budget)
    | (.ok slot, table, budget) =>
      match RowRef.of? index row with
      | none => (.error (.unsupported .build (.rowAddress row)), table, ledger, budget)
      | some ref =>
        match ledger.link slot ref budget with
        | (.error e, ledger, budget) => (.error e, table, ledger, budget)
        | (.ok (), ledger, budget) => insertRows keys batch index (row + 1) table ledger budget
  else (.ok (), table, ledger, budget)
  termination_by batch.rowCount - row

/-- Inserts the rows of a batch and stores it. -/
def insertBatch (l : Loading) (table : SlotTable) (keys : JoinKeys) (batch : Batch) :
    Except JoinError Unit × Loading :=
  match l with
  | ⟨_, ledger, store, budget, metrics⟩ =>
    match insertRows keys batch store.nextIndex 0 table ledger budget with
    | (.error e, table, ledger, budget) =>
      (.error e, ⟨some (table, keys), ledger, store, budget, metrics⟩)
    | (.ok (), table, ledger, budget) =>
      match store.absorb batch budget with
      | .error e => (.error e, ⟨some (table, keys), ledger, store, budget, metrics⟩)
      | .ok (_, store, budget) =>
        (.ok (), ⟨some (table, keys), ledger, store, budget, metrics.recordBuild batch.rowCount⟩)

/-- The store once the schema of a batch has been noted: the first schema counts, but rows may come
under another one as long as none are stored. -/
def noteSchema (store : BuildStore) (batch : Batch) : Except JoinError BuildStore :=
  let known := store.schema.any fun schema =>
    batch.rowCount = 0 || !store.batches.isEmpty || batch.conforms schema
  if known then .ok store else store.captureSchema batch.schema

/-- Resolves the keys and creates the table. -/
def openTable (config : Config) (probeSchema : Option Schema) (l : Loading) :
    Except JoinError (SlotTable × JoinKeys × Budget) := do
  let keys ← JoinKeys.resolve config.conditions l.store.schema probeSchema
  let (table, budget) ← (SlotTable.create config.minBuckets config.loadFactor l.budget).mapError
    (·.toJoinError .table)
  return (table, keys, budget)

/-- Takes one batch in. -/
def accept (config : Config) (probeSchema : Option Schema) (l : Loading) (batch : Batch) :
    Except JoinError Unit × Loading :=
  match noteSchema l.store batch with
  | .error e => (.error e, l)
  | .ok store =>
    let l := { l with store := store }
    if batch.rowCount = 0 then (.ok (), l)
    else match l.store.inspect batch with
      | .error e => (.error e, l)
      | .ok () =>
        match l.table with
        | some (table, keys) => { l with table := none }.insertBatch table keys batch
        | none =>
          match l.openTable config probeSchema with
          | .error e => (.error e, l)
          | .ok (table, keys, budget) => { l with budget := budget }.insertBatch table keys batch

/-! ### The whole source -/

/-- Takes in all batches that a source still delivers. -/
def drain {σ : Type} [BatchSource σ] (config : Config) (probeSchema : Option Schema) (source : σ)
    (l : Loading) : Except JoinError Unit × σ × Loading :=
  match pulled : BatchSource.pull .build source with
  | (.error e, source) => (.error e, source, l)
  | (.ok none, source) => (.ok (), source, l)
  | (.ok (some batch), rest) =>
    have : BatchSource.pullsLeft rest < BatchSource.pullsLeft source :=
      BatchSource.pullsLeft_of_pull pulled
    match l.accept config probeSchema batch with
    | (.error e, l) => (.error e, rest, l)
    | (.ok (), l) => drain config probeSchema rest l
  termination_by BatchSource.pullsLeft source

/-- Takes in a batch that was pulled in advance, if there is one. -/
def acceptFirst (config : Config) (probeSchema : Option Schema) (l : Loading)
    (first : Option Batch) : Except JoinError Unit × Loading :=
  match first with
  | some batch => l.accept config probeSchema batch
  | none => (.ok (), l)

/-- Settles the schema and the keys when there are no more batches. A schema that the source has
announced counts if no batch brought one. -/
def finish (config : Config) (declared probeSchema : Option Schema) (l : Loading) :
    Except JoinError JoinKeys × Loading :=
  let l := { l with store := { l.store with schema := l.store.schema.or declared } }
  match l.table with
  | some (_, keys) => (.ok keys, l)
  | none => (JoinKeys.resolve config.conditions l.store.schema probeSchema, l)

/-- Fills the build side: takes in the batch that was pulled in advance, and then all others. The
result holds the keys. -/
def fill {σ : Type} [BatchSource σ] (config : Config) (probeSchema : Option Schema)
    (first : Option Batch) (source : σ) (l : Loading) : Except JoinError JoinKeys × σ × Loading :=
  match l.acceptFirst config probeSchema first with
  | (.error e, l) => (.error e, source, l)
  | (.ok (), l) =>
    match l.drain config probeSchema source with
    | (.error e, source, l) => (.error e, source, l)
    | (.ok (), source, l) =>
      match l.finish config (BatchSource.schema? source) probeSchema with
      | (keys, l) => (keys, source, l)

end Loading

end HashJoin
