import HashJoin.Checked.Filling
import HashJoin.Checked.Probing
import HashJoin.Operator

/-!
# The checked operator

The stage of an operator holds what makes the output, and no stage stands for the time in which the build
side is being filled. Here the parts are kept apart: the state is a name, the build side and what makes the
output are each there or not, and a pull has to find those that its state needs. Every pull is made of
checked computations.

## Main definitions

* `JoinState`, `JoinMachine` — the names of the states, and an operator in parts.
* `JoinMachine.ofSources` — the machine before its first pull.
* `JoinMachine.start`, `JoinMachine.pullOutput`, `JoinMachine.next` — the first pull, an output batch, and
  every pull.
-/

namespace HashJoin

/-- The states of an operator, by name. -/
inductive JoinState
  /-- Nothing has been pulled. -/
  | unstarted
  /-- The build side is being filled. -/
  | building
  /-- Output is on its way. -/
  | probing
  /-- There are no more rows. -/
  | done
  /-- An error has occurred, or the operator was killed. -/
  | failed
  deriving DecidableEq

/-- Whether nothing more can happen. -/
def JoinState.isTerminal : JoinState → Bool
  | done | failed => true
  | unstarted | building | probing => false

/-- A join of two sources, in parts. -/
structure JoinMachine (P B : Type) where
  /-- What governs the join. -/
  config : Config
  /-- The probe source. -/
  probe : P
  /-- The build source. -/
  build : B
  /-- The state. -/
  state : JoinState
  /-- The memory of the join. -/
  budget : Budget
  /-- Slots by hash. -/
  table : Option SlotTable
  /-- Rows by slot. -/
  ledger : MatchLedger
  /-- The rows. -/
  store : BuildStore
  /-- What makes the output. -/
  engine : Option Probe
  /-- The schema of the output, once it is known. -/
  outputSchema : Option Schema
  /-- The output batch made last. -/
  current : Option Batch
  /-- The cause of the failure. -/
  failure : Option JoinError
  /-- The counters. -/
  metrics : Metrics
  /-- Whether an output batch has been reported. -/
  announced : Bool
  /-- Whether the memory has been given back. -/
  released : Bool
  /-- Whether the inputs have been killed, or are to be left alone. -/
  inputsSettled : Bool
  /-- The kills that arrived below, in order of arrival. -/
  killLog : List KillSignal

namespace JoinMachine

variable {P B : Type}

/-- The machine before its first pull. -/
def ofSources (config : Config) (probe : P) (build : B) : JoinMachine P B where
  config := config
  probe := probe
  build := build
  state := .unstarted
  budget := .ofLimit config.memoryLimit
  table := none
  ledger := .empty
  store := .empty
  engine := none
  outputSchema := none
  current := none
  failure := none
  metrics := .zero
  announced := false
  released := false
  inputsSettled := false
  killLog := []

/-- Takes out the current batch. -/
def takeBatch (m : JoinMachine P B) : Option Batch × JoinMachine P B :=
  (m.current, { m with current := none })

/-- Takes out the cause of the failure. -/
def takeFailure (m : JoinMachine P B) : Option JoinError × JoinMachine P B :=
  (m.failure, { m with failure := none })

variable [BatchSource P] [BatchSource B]

/-! ### Inputs -/

/-- The machine with its probe source as it is now; kills that arrived there are noted. -/
def setProbe (m : JoinMachine P B) (probe : P) : JoinMachine P B :=
  let news := (BatchSource.killLog probe).drop (BatchSource.killLog m.probe).length
  { m with probe := probe, killLog := m.killLog ++ news }

/-- The machine with its build source as it is now; kills that arrived there are noted. -/
def setBuild (m : JoinMachine P B) (build : B) : JoinMachine P B :=
  let news := (BatchSource.killLog build).drop (BatchSource.killLog m.build).length
  { m with build := build, killLog := m.killLog ++ news }

/-- Pulls the probe source. -/
def pullProbe (m : JoinMachine P B) : Except JoinError (Option Batch) × JoinMachine P B :=
  let (result, probe) := BatchSource.pull .probe m.probe
  (result, m.setProbe probe)

/-- Pulls the build source. -/
def pullBuild (m : JoinMachine P B) : Except JoinError (Option Batch) × JoinMachine P B :=
  let (result, build) := BatchSource.pull .build m.build
  (result, m.setBuild build)

/-! ### The end -/

/-- Gives all memory back and drops what makes the output, unless that has been done. -/
def release (m : JoinMachine P B) : JoinMachine P B :=
  if m.released then m
  else
    let (side, budget) := BuildSide.clear ⟨m.table, m.ledger, m.store⟩ m.budget
    let budget := budget.releaseAll.2
    { m with
      table := side.table
      ledger := side.ledger
      store := side.store
      engine := none
      budget := budget
      current := none
      released := true
      metrics := m.metrics.recordPeak budget }

/-- Kills both inputs, unless they are settled. -/
def killInputs (m : JoinMachine P B) : JoinMachine P B :=
  if m.inputsSettled then m
  else
    let m := { m with inputsSettled := true }
    let m := m.setProbe (BatchSource.kill true m.probe)
    m.setBuild (BatchSource.kill true m.build)

/-- Gives all memory back and kills both inputs, each unless it has been done. -/
def tearDown (m : JoinMachine P B) : JoinMachine P B := m.release.killInputs

/-- Ends the join without an error. -/
def finish (m : JoinMachine P B) : JoinMachine P B := { m with state := .done }.tearDown

/-- Ends the join with an error. -/
def fail (m : JoinMachine P B) (cause : JoinError) : JoinMachine P B :=
  { m with failure := some cause, state := .failed }.tearDown

/-- Ends the join if it has not ended. -/
def close (m : JoinMachine P B) : JoinMachine P B :=
  let m := if m.state.isTerminal then m else { m with state := .done }
  m.tearDown

/-- Cancels the join if it has not ended. Without propagation the inputs are left alone. -/
def kill (propagate : Bool) (m : JoinMachine P B) : JoinMachine P B :=
  let m := if m.state.isTerminal then m
    else { m with failure := some .cancelled, state := .failed }
  let m := if propagate then m else { m with inputsSettled := true }
  m.tearDown

/-! ### The first pull -/

/-- Fills the build side. The result holds the keys. -/
def fillBuild (m : JoinMachine P B) (first : Option Batch) (probeSchema : Option Schema) :
    Checked (Except JoinError JoinKeys × JoinMachine P B) := do
  let (result, build, f) ← Checked.fillBuild m.config probeSchema first m.build
    ⟨m.table, m.ledger, m.store, m.budget, m.metrics⟩
  let m := m.setBuild build
  return (result, { m with
    table := f.table
    ledger := f.ledger
    store := f.store
    budget := f.budget
    metrics := f.metrics })

/-- Takes over the results of the filled build side: counters and the schema of the output. -/
def settle (m : JoinMachine P B) (output : OutputSchema) : JoinMachine P B :=
  let metrics := match m.table with
    | some table => m.metrics.recordTable table.stats
    | none => m.metrics
  { m with metrics := metrics.recordPeak m.budget, outputSchema := some output.schema }

/-- Ends a join that has no output, once its probe source has been read to the end. -/
def skipOutput (m : JoinMachine P B) (first : Option Batch) : Except JoinError Unit × JoinMachine P B :=
  let (drained, probe) := if first.isSome then Operator.drainProbe m.probe else (.ok (), m.probe)
  let m := m.setProbe probe
  match drained with
  | .error e => (.error e, m)
  | .ok () => (.ok (), m.finish)

/-- Begins with the output, if there can be any. -/
def startProbing (m : JoinMachine P B) (keys : JoinKeys) (first : Option Batch)
    (probeSchema : Option Schema) : Except JoinError Unit × JoinMachine P B :=
  let joinType := m.config.joinType
  let output := OutputSchema.ofSides m.store.schema probeSchema joinType
  let m := m.settle output
  if m.store.rowCount = 0 && joinType = .inner then m.skipOutput first
  else
    let plan : ProbePlan := ⟨joinType, keys, output, m.config.batchRows⟩
    let supply : Supply := ⟨probeSchema, first, first.isNone⟩
    (.ok (), { m with engine := some (.ofPlan plan supply), state := .probing })

/-- Makes everything ready for the first output batch. -/
def start (m : JoinMachine P B) : Checked (Except JoinError Unit × JoinMachine P B) :=
  match { m with state := .building }.pullProbe with
  | (.error e, m) => return (.error e, m)
  | (.ok first, m) =>
    let probeSchema := (first.map Batch.schema).or (BatchSource.schema? m.probe)
    match m.pullBuild with
    | (.error e, m) => return (.error e, m)
    | (.ok buildFirst, m) => do
      match ← m.fillBuild buildFirst probeSchema with
      | (.error e, m) => return (.error e, m)
      | (.ok keys, m) => return m.startProbing keys first probeSchema

/-! ### Every pull -/

/-- Reports what came of an attempt at an output batch. -/
def deliver (m : JoinMachine P B) (result : Except JoinError (Option Batch)) :
    Pulled × JoinMachine P B :=
  match result with
  | .error e => (.failed, m.fail e)
  | .ok none => (.ended, m.finish)
  | .ok (some batch) =>
    let report := if m.announced then .batch else .newSchema
    (report, { m with
      current := some batch
      announced := true
      metrics := m.metrics.recordOutput batch.rowCount })

/-- Makes the next output batch. What makes it has to be there. -/
def pullOutput (m : JoinMachine P B) : Checked (Pulled × JoinMachine P B) :=
  match m.engine with
  | none => Checked.defect (.internal .missingEngine)
  | some p => do
    let (result, p, ledger, source, metrics) ←
      Checked.nextOutput m.table m.store m.ledger p m.probe m.metrics
    let m := m.setProbe source
    return { m with engine := some p, ledger := ledger, metrics := metrics }.deliver result

/-- Pulls the machine. It must not be filling its build side. -/
def next (m : JoinMachine P B) : Checked (Pulled × JoinMachine P B) :=
  match m.state with
  | .done => return (.ended, m)
  | .failed => return (.failed, m)
  | .building => Checked.defect (.internal .pulledWhileBuilding)
  | .probing => { m with current := none }.pullOutput
  | .unstarted => do
    match ← m.start with
    | (.error e, m) => return (.failed, m.fail e)
    | (.ok (), m) => if m.state = .done then return (.ended, m) else m.pullOutput

end JoinMachine

end HashJoin
