import HashJoin.Probe

/-!
# The join operator

An operator joins two sources and is a source itself. Its first pull takes one probe batch in
advance, fills the build side from the whole build source, and fixes the schema of its output; from
then on every pull makes one output batch. An inner join without build rows has no output, so it only
reads the probe source to its end.

An operator ends by running out of rows, by an error, by being killed or by being closed. It then
gives all its memory back and kills its inputs, the probe side first, each of them once. A kill that
is not to propagate leaves the inputs alone for good.

## Main definitions

* `Operator`, `Operator.ofSources`, `Operator.create?` — operators, from a configuration that can be
  run.
* `Operator.next`, `Operator.kill`, `Operator.close`, `Operator.dispose` — what can be done to one.
* The instance of `BatchSource`, by which operators can be inputs of operators.
-/

namespace HashJoin

/-- The stage of an operator. -/
inductive Stage
  /-- Nothing has been pulled. -/
  | unstarted
  /-- The build side is filled, and output is on its way. -/
  | probing (probe : Probe)
  /-- There are no more rows. -/
  | done
  /-- An error has occurred, or the operator was killed. -/
  | failed

/-- Whether nothing more can happen. -/
def Stage.isTerminal : Stage → Bool
  | done | failed => true
  | unstarted | probing _ => false

/-- A join of two sources. -/
structure Operator (P B : Type) where
  /-- What governs the join. -/
  config : Config
  /-- The probe source. -/
  probe : P
  /-- The build source. -/
  build : B
  /-- The stage. -/
  stage : Stage
  /-- The memory of the join. -/
  budget : Budget
  /-- The stored build rows. -/
  side : BuildSide
  /-- The schema of the output, once it is known. -/
  outputSchema : Option Schema
  /-- The output batch made last. -/
  current : Option Batch
  /-- The cause of the failure. -/
  failure : Option JoinError
  /-- The counters. -/
  metrics : Metrics
  /-- Whether an output batch has been reported. -/
  announced : Bool
  /-- Whether the memory has been given back. -/
  released : Bool
  /-- Whether the inputs have been killed, or are to be left alone. -/
  inputsSettled : Bool
  /-- The kills that arrived below, in order of arrival. -/
  killLog : List KillSignal

namespace Operator

variable {P B : Type}

/-- The operator before its first pull. -/
def ofSources (config : Config) (probe : P) (build : B) : Operator P B where
  config := config
  probe := probe
  build := build
  stage := .unstarted
  budget := .ofLimit config.memoryLimit
  side := .empty
  outputSchema := none
  current := none
  failure := none
  metrics := .zero
  announced := false
  released := false
  inputsSettled := false
  killLog := []

/-- The operator before its first pull, unless the configuration has a fault. -/
def create? (config : Config) (probe : P) (build : B) : Except JoinError (Operator P B) :=
  match config.fault? with
  | some fault => .error (.invalidConfig fault)
  | none => .ok (ofSources config probe build)

/-- Number of rows of the current batch. -/
def recordCount (op : Operator P B) : Nat := (op.current.map Batch.rowCount).getD 0

/-- Takes out the current batch. -/
def takeBatch (op : Operator P B) : Option Batch × Operator P B :=
  (op.current, { op with current := none })

/-- Takes out the cause of the failure. -/
def takeFailure (op : Operator P B) : Option JoinError × Operator P B :=
  (op.failure, { op with failure := none })

variable [BatchSource P] [BatchSource B]

/-! ### Inputs -/

/-- The operator with its probe source as it is now; kills that arrived there are noted. -/
def setProbe (op : Operator P B) (probe : P) : Operator P B :=
  let news := (BatchSource.killLog probe).drop (BatchSource.killLog op.probe).length
  { op with probe := probe, killLog := op.killLog ++ news }

/-- The operator with its build source as it is now; kills that arrived there are noted. -/
def setBuild (op : Operator P B) (build : B) : Operator P B :=
  let news := (BatchSource.killLog build).drop (BatchSource.killLog op.build).length
  { op with build := build, killLog := op.killLog ++ news }

/-- Pulls the probe source. -/
def pullProbe (op : Operator P B) : Except JoinError (Option Batch) × Operator P B :=
  let (result, probe) := BatchSource.pull .probe op.probe
  (result, op.setProbe probe)

/-- Pulls the build source. -/
def pullBuild (op : Operator P B) : Except JoinError (Option Batch) × Operator P B :=
  let (result, build) := BatchSource.pull .build op.build
  (result, op.setBuild build)

/-! ### The end -/

/-- Gives all memory back, unless that has been done. -/
def release (op : Operator P B) : Operator P B :=
  if op.released then op
  else
    let (side, budget) := op.side.clear op.budget
    let budget := budget.releaseAll.2
    { op with
      side := side
      budget := budget
      current := none
      released := true
      metrics := op.metrics.recordPeak budget }

/-- Kills both inputs, unless they are settled. -/
def killInputs (op : Operator P B) : Operator P B :=
  if op.inputsSettled then op
  else
    let op := { op with inputsSettled := true }
    let op := op.setProbe (BatchSource.kill true op.probe)
    op.setBuild (BatchSource.kill true op.build)

/-- Gives all memory back and kills both inputs, each unless it has been done. -/
def tearDown (op : Operator P B) : Operator P B := op.release.killInputs

/-- Ends the join without an error. -/
def finish (op : Operator P B) : Operator P B := { op with stage := .done }.tearDown

/-- Ends the join with an error. -/
def fail (op : Operator P B) (cause : JoinError) : Operator P B :=
  { op with failure := some cause, stage := .failed }.tearDown

/-- Ends the join if it has not ended. -/
def close (op : Operator P B) : Operator P B :=
  let op := if op.stage.isTerminal then op else { op with stage := .done }
  op.tearDown

/-- Cancels the join if it has not ended. Without propagation the inputs are left alone. -/
def kill (propagate : Bool) (op : Operator P B) : Operator P B :=
  let op := if op.stage.isTerminal then op
    else { op with failure := some .cancelled, stage := .failed }
  let op := if propagate then op else { op with inputsSettled := true }
  op.tearDown

/-- Closes the join and lets go of its inputs. -/
def dispose (op : Operator P B) : Operator P B :=
  let op := op.close
  let op := op.setProbe (BatchSource.dispose op.probe)
  op.setBuild (BatchSource.dispose op.build)

/-! ### The first pull -/

/-- Fills the build side. The result holds the keys. -/
def fillBuild (op : Operator P B) (first : Option Batch) (probeSchema : Option Schema) :
    Except JoinError JoinKeys × Operator P B :=
  let loading : Loading := ⟨none, op.side.ledger, op.side.store, op.budget, op.metrics⟩
  match loading.fill op.config probeSchema first op.build with
  | (result, build, loading) =>
    let op := op.setBuild build
    (result, { op with side := loading.side, budget := loading.budget, metrics := loading.metrics })

/-- Reads the probe source to its end. -/
def drainProbe (source : P) : Except JoinError Unit × P :=
  match pulled : BatchSource.pull .probe source with
  | (.error e, source) => (.error e, source)
  | (.ok none, source) => (.ok (), source)
  | (.ok (some _), rest) =>
    have : BatchSource.pullsLeft rest < BatchSource.pullsLeft source :=
      BatchSource.pullsLeft_of_pull pulled
    drainProbe rest
  termination_by BatchSource.pullsLeft source

/-- Takes over the results of the filled build side: counters and the schema of the output. -/
def settle (op : Operator P B) (output : OutputSchema) : Operator P B :=
  let metrics := match op.side.table with
    | some table => op.metrics.recordTable table.stats
    | none => op.metrics
  { op with metrics := metrics.recordPeak op.budget, outputSchema := some output.schema }

/-- Ends a join that has no output, once its probe source has been read to the end. -/
def skipOutput (op : Operator P B) (first : Option Batch) : Except JoinError Unit × Operator P B :=
  let (drained, probe) := if first.isSome then drainProbe op.probe else (.ok (), op.probe)
  let op := op.setProbe probe
  match drained with
  | .error e => (.error e, op)
  | .ok () => (.ok (), op.finish)

/-- Begins with the output, if there can be any. -/
def startProbing (op : Operator P B) (keys : JoinKeys) (first : Option Batch)
    (probeSchema : Option Schema) : Except JoinError Unit × Operator P B :=
  let joinType := op.config.joinType
  let output := OutputSchema.ofSides op.side.store.schema probeSchema joinType
  let op := op.settle output
  if op.side.store.rowCount = 0 && joinType = .inner then op.skipOutput first
  else
    let plan : ProbePlan := ⟨joinType, keys, output, op.config.batchRows⟩
    let supply : Supply := ⟨probeSchema, first, first.isNone⟩
    (.ok (), { op with stage := .probing (.ofPlan plan supply) })

/-- Makes everything ready for the first output batch. -/
def start (op : Operator P B) : Except JoinError Unit × Operator P B :=
  match op.pullProbe with
  | (.error e, op) => (.error e, op)
  | (.ok first, op) =>
    let probeSchema := (first.map Batch.schema).or (BatchSource.schema? op.probe)
    match op.pullBuild with
    | (.error e, op) => (.error e, op)
    | (.ok buildFirst, op) =>
      match op.fillBuild buildFirst probeSchema with
      | (.error e, op) => (.error e, op)
      | (.ok keys, op) => op.startProbing keys first probeSchema

/-! ### Every pull -/

/-- The operator with what an attempt at an output batch has left of its parts. -/
def resume (op : Operator P B) (p : Probe) (side : BuildSide) (source : P) (metrics : Metrics) :
    Operator P B :=
  let op := op.setProbe source
  { op with side := side, metrics := metrics, stage := .probing p }

/-- Reports what came of an attempt at an output batch. -/
def deliver (op : Operator P B) (result : Except JoinError (Option Batch)) : Pulled × Operator P B :=
  match result with
  | .error e => (.failed, op.fail e)
  | .ok none => (.ended, op.finish)
  | .ok (some batch) =>
    let report := if op.announced then .batch else .newSchema
    (report, { op with
      current := some batch
      announced := true
      metrics := op.metrics.recordOutput batch.rowCount })

/-- Makes the next output batch. -/
def pullOutput (op : Operator P B) (p : Probe) : Pulled × Operator P B :=
  let side := op.side
  let source := op.probe
  let metrics := op.metrics
  let op := { op with side := .empty }
  match side with
  | ⟨table, ledger, store⟩ =>
    match p.nextOutput table store ledger source metrics with
    | (result, p, ledger, source, metrics) =>
      (op.resume p ⟨table, ledger, store⟩ source metrics).deliver result

/-- Pulls the operator. -/
def next (op : Operator P B) : Pulled × Operator P B :=
  match op.stage with
  | .done => (.ended, op)
  | .failed => (.failed, op)
  | .probing p => { op with current := none }.pullOutput p
  | .unstarted =>
    match op.start with
    | (.error e, op) => (.failed, op.fail e)
    | (.ok (), op) =>
      match op.stage with
      | .probing p => op.pullOutput p
      | _ => (.ended, op)

/-- A bound on the output rows still to come. -/
def rowsLeft (op : Operator P B) : Nat :=
  match op.stage with
  | .unstarted =>
    let buildRows := BatchSource.rowsLeft op.build
    BatchSource.rowsLeft op.probe * (buildRows + 1) + buildRows
  | .probing p => p.rowsLeft (BatchSource.rowsLeft op.probe) op.side.store.rowCount
  | .done | .failed => 0

instance : BatchSource (Operator P B) where
  schema? := Operator.outputSchema
  next := next
  current? := Operator.current
  takeBatch := takeBatch
  takeFailure := takeFailure
  kill := kill
  dispose := dispose
  killLog := Operator.killLog
  pullsLeft := rowsLeft
  rowsLeft := rowsLeft

end Operator

end HashJoin
