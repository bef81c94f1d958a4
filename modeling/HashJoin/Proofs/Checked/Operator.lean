import HashJoin.Checked.Operator
import HashJoin.Proofs.Checked.Filling
import HashJoin.Proofs.Checked.Probing
import HashJoin.Proofs.Run.Standing

/-!
# The checked operator is the operator

An operator in parts does what the operator does, call by call, as long as the operator stands in one of the
states of a run. What makes the output is there exactly in the stage that has it; between the start of the
first pull and its end, the state has another name; and when the parts are given back, what makes the output
is dropped with them.

## Main definitions

* `JoinMachine.ofOperator` — the parts of an operator.
* `JoinMachine.perform`, `JoinMachine.run` — a call and a sequence of calls.

## Main results

* `start_eq`, `pullOutput_eq` — the first pull up to its output, and an output batch.
* `next_eq_of_standing` — **a pull in any state of a run.**
* `run_eq_of_standing` — every sequence of calls.
-/

namespace HashJoin

open BatchSource
open Operator (Call Standing Probing start_of_reliable)

/-- The name of a stage. -/
def Stage.state : Stage → JoinState
  | unstarted => .unstarted
  | probing _ => .probing
  | done => .done
  | failed => .failed

/-- What makes the output in a stage. -/
def Stage.engine : Stage → Option Probe
  | probing p => some p
  | unstarted | done | failed => none

theorem Stage.isTerminal_state (stage : Stage) : stage.state.isTerminal = stage.isTerminal := by
  cases stage with
  | unstarted => rfl
  | probing => rfl
  | done => rfl
  | failed => rfl

theorem Stage.engine_of_isTerminal {stage : Stage} (h : stage.isTerminal = true) :
    stage.engine = none := by
  cases stage with
  | done => rfl
  | failed => rfl
  | unstarted => cases h
  | probing => cases h

namespace JoinMachine

variable {P B : Type}

/-- The parts of an operator. -/
def ofOperator (op : Operator P B) : JoinMachine P B where
  config := op.config
  probe := op.probe
  build := op.build
  state := op.stage.state
  budget := op.budget
  table := op.side.table
  ledger := op.side.ledger
  store := op.side.store
  engine := op.stage.engine
  outputSchema := op.outputSchema
  current := op.current
  failure := op.failure
  metrics := op.metrics
  announced := op.announced
  released := op.released
  inputsSettled := op.inputsSettled
  killLog := op.killLog

theorem ofOperator_ofSources (config : Config) (probe : P) (build : B) :
    ofOperator (.ofSources config probe build) = ofSources config probe build := rfl

variable [BatchSource P] [BatchSource B] {op : Operator P B} {config : Config} {probe : P} {build : B}

/-- The machine after a call. -/
def perform (m : JoinMachine P B) : Call → Checked (JoinMachine P B)
  | .next => do
    let (_, m) ← m.next
    return m
  | .takeBatch => return m.takeBatch.2
  | .takeFailure => return m.takeFailure.2
  | .kill propagate => return m.kill propagate
  | .close => return m.close

/-- The machine after a sequence of calls. -/
def run (m : JoinMachine P B) (calls : List Call) : Checked (JoinMachine P B) := calls.foldlM perform m

/-! ### The end -/

omit [BatchSource P] [BatchSource B] in
/-- When the parts are given back, what makes the output is dropped. -/
theorem release_eq (op : Operator P B) (engine : Option Probe) (hstage : op.stage.isTerminal = true)
    (hreleased : op.released = true → engine = none) :
    release { ofOperator op with engine := engine } = ofOperator op.release := by
  have hnone : op.stage.engine = none := Stage.engine_of_isTerminal hstage
  unfold release Operator.release
  cases hheld : op.released with
  | true =>
    obtain rfl := hreleased hheld
    simp only [ofOperator, hheld, hnone, if_true]
  | false => simp only [ofOperator, hheld, hnone, Bool.false_eq_true, if_false]

theorem killInputs_eq (op : Operator P B) : (ofOperator op).killInputs = ofOperator op.killInputs := by
  unfold killInputs Operator.killInputs
  cases hsettled : op.inputsSettled with
  | true =>
    simp only [ofOperator, hsettled, if_true]
  | false =>
    simp only [ofOperator, hsettled, Bool.false_eq_true, if_false]
    rfl

theorem tearDown_eq (op : Operator P B) (engine : Option Probe) (hstage : op.stage.isTerminal = true)
    (hreleased : op.released = true → engine = none) :
    tearDown { ofOperator op with engine := engine } = ofOperator op.tearDown := by
  rw [tearDown, release_eq op engine hstage hreleased, killInputs_eq, Operator.tearDown]

omit [BatchSource P] [BatchSource B] in
theorem engine_of_held (hheld : op.released = false) : op.released = true → op.stage.engine = none := by
  intro hreleased
  cases hheld.symm.trans hreleased

/-- The end without an error, whatever the state is called before. -/
theorem finish_eq (op : Operator P B) (state : JoinState)
    (hreleased : op.released = true → op.stage.engine = none) :
    finish { ofOperator op with state := state } = ofOperator op.finish :=
  tearDown_eq { op with stage := .done } op.stage.engine rfl hreleased

/-- The end with an error, whatever the state is called before. -/
theorem fail_eq (op : Operator P B) (state : JoinState) (cause : JoinError)
    (hreleased : op.released = true → op.stage.engine = none) :
    fail { ofOperator op with state := state } cause = ofOperator (op.fail cause) :=
  tearDown_eq { op with failure := some cause, stage := .failed } op.stage.engine rfl hreleased

theorem close_eq (hreleased : op.released = true → op.stage.engine = none) :
    (ofOperator op).close = ofOperator op.close := by
  unfold close Operator.close
  rw [show (ofOperator op).state.isTerminal = _ from op.stage.isTerminal_state]
  cases hterminal : op.stage.isTerminal with
  | true => exact tearDown_eq op op.stage.engine hterminal hreleased
  | false => exact tearDown_eq { op with stage := .done } op.stage.engine rfl hreleased

theorem kill_eq (propagate : Bool) (hreleased : op.released = true → op.stage.engine = none) :
    (ofOperator op).kill propagate = ofOperator (op.kill propagate) := by
  unfold kill Operator.kill
  rw [show (ofOperator op).state.isTerminal = _ from op.stage.isTerminal_state]
  cases hterminal : op.stage.isTerminal with
  | true =>
    cases propagate with
    | true => exact tearDown_eq op op.stage.engine hterminal hreleased
    | false =>
      exact tearDown_eq { op with inputsSettled := true } op.stage.engine hterminal hreleased
  | false =>
    cases propagate with
    | true =>
      exact tearDown_eq { op with failure := some .cancelled, stage := .failed } op.stage.engine
        rfl hreleased
    | false =>
      exact tearDown_eq { op with failure := some .cancelled, stage := .failed, inputsSettled := true }
        op.stage.engine rfl hreleased

/-! ### The first pull -/

/-- The parts of an operator during its first pull. -/
def building (op : Operator P B) : JoinMachine P B := { ofOperator op with state := .building }

/-- What the first pull comes to. An error leaves the state as it is called meanwhile. -/
def started : Except JoinError Unit × Operator P B → Except JoinError Unit × JoinMachine P B
  | (.error e, op) => (.error e, building op)
  | (.ok (), op) => (.ok (), ofOperator op)

omit [BatchSource B] in
theorem pullProbe_building (op : Operator P B) :
    (building op).pullProbe = (op.pullProbe.1, building op.pullProbe.2) := rfl

omit [BatchSource P] in
theorem pullBuild_building (op : Operator P B) :
    (building op).pullBuild = (op.pullBuild.1, building op.pullBuild.2) := rfl

omit [BatchSource P] in
/-- **The build side is filled** from its parts. -/
theorem fillBuild_building (op : Operator P B) {first : Option Batch} (probeSchema : Option Schema)
    (hempty : op.side = .empty) (hfirst : ∀ batch, first = some batch → HasColumns batch)
    (hbuild : Reliable op.build) :
    (building op).fillBuild first probeSchema =
      pure ((op.fillBuild first probeSchema).1, building (op.fillBuild first probeSchema).2) := by
  obtain ⟨config, probe, build, stage, budget, side, outputSchema, current, failure, metrics, _⟩ := op
  obtain rfl : side = .empty := hempty
  have hfill : Checked.fillBuild config probeSchema first build ⟨none, .empty, .empty, budget, metrics⟩ =
      _ := Checked.fillBuild_eq hfirst hbuild
  simp only [fillBuild, building, ofOperator, BuildSide.empty, hfill, pure_bind, Operator.fillBuild]
  rfl

theorem skipOutput_building (op : Operator P B) (first : Option Batch) (hheld : op.released = false) :
    (building op).skipOutput first = started (op.skipOutput first) := by
  unfold skipOutput Operator.skipOutput
  rw [show (building op).probe = op.probe from rfl]
  rcases (if first.isSome then Operator.drainProbe op.probe else (.ok (), op.probe)) with ⟨_ | _, probe⟩
  · rfl
  · exact congrArg (Prod.mk _) (finish_eq (op.setProbe probe) .building (engine_of_held hheld))

/-- The output begins, or there is none. -/
theorem startProbing_building (op : Operator P B) (keys : JoinKeys) (first : Option Batch)
    (probeSchema : Option Schema) (hheld : op.released = false) :
    (building op).startProbing keys first probeSchema =
      started (op.startProbing keys first probeSchema) := by
  simp only [startProbing, Operator.startProbing]
  by_cases hbare : (op.side.store.rowCount = 0 && op.config.joinType = .inner) = true
  · rw [if_pos (by exact hbare), if_pos (by exact hbare)]
    exact skipOutput_building (op.settle _) first hheld
  · rw [if_neg (by exact hbare), if_neg (by exact hbare)]
    rfl

/-- **Everything is made ready** for the first output batch. -/
theorem start_eq (op : Operator P B) (hempty : op.side = .empty) (hheld : op.released = false)
    (hbuild : Reliable op.build) :
    (ofOperator op).start = pure (started op.start) := by
  unfold start Operator.start
  rw [show { ofOperator op with state := .building } = building op from rfl, pullProbe_building]
  rcases hprobe : op.pullProbe with ⟨_ | first, op₁⟩
  · rfl
  · obtain ⟨hempty₁, hheld₁, hbuild₁⟩ :
        op₁.side = .empty ∧ op₁.released = false ∧ Reliable op₁.build := by
      obtain rfl : op.setProbe _ = op₁ := congrArg Prod.snd hprobe
      exact ⟨hempty, hheld, hbuild⟩
    simp only [pullBuild_building]
    rcases hpull : op₁.pullBuild with ⟨_ | buildFirst, op₂⟩
    · rfl
    · obtain ⟨hempty₂, hheld₂, hbuild₂, hfirst⟩ : op₂.side = .empty ∧ op₂.released = false ∧
          Reliable op₂.build ∧ ∀ batch, buildFirst = some batch → HasColumns batch := by
        rcases hsource : pull .build op₁.build with ⟨result, source⟩
        obtain ⟨hreaches, hcolumns, -⟩ := pull_of_reliable hbuild₁ hsource
        simp only [Operator.pullBuild, hsource] at hpull
        cases hpull
        refine ⟨hempty₁, hheld₁, hbuild₁.of_reaches hreaches, ?_⟩
        rintro batch rfl
        exact hcolumns batch rfl
      simp only [fillBuild_building op₂ _ hempty₂ hfirst hbuild₂, pure_bind]
      rw [show schema? (building op₁).probe = schema? op₁.probe from rfl]
      rcases hfill : op₂.fillBuild buildFirst ((first.map Batch.schema).or (schema? op₁.probe)) with
        ⟨_ | keys, op₃⟩
      · rfl
      · have hheld₃ : op₃.released = false := by
          obtain rfl : (op₂.fillBuild _ _).2 = op₃ := congrArg Prod.snd hfill
          exact hheld₂
        simp only [startProbing_building op₃ keys first _ hheld₃]

/-! ### Every pull -/

theorem deliver_eq (op : Operator P B) (result : Except JoinError (Option Batch))
    (hheld : op.released = false) :
    (ofOperator op).deliver result = ((op.deliver result).1, ofOperator (op.deliver result).2) := by
  rcases result with e | _ | batch
  · exact congrArg (Prod.mk _) (fail_eq op op.stage.state e (engine_of_held hheld))
  · exact congrArg (Prod.mk _) (finish_eq op op.stage.state (engine_of_held hheld))
  · rfl

/-- An operator that owes rows makes its next output batch. -/
theorem pullOutput_eq {p : Probe} {j : Job} {total : List Joined} {ending : Option JoinError}
    (howing : op.Owing j total ending) (hj : j.Sound total)
    (hfields : j.plan.output.buildWidth ≤ j.plan.output.schema.fields.length)
    (hstage : op.stage = .probing p) (hheld : op.released = false) :
    (ofOperator op).pullOutput = pure ((op.pullOutput p).1, ofOperator (op.pullOutput p).2) := by
  obtain ⟨q, batches, hstage', htable, hstore, hready, rfl⟩ := howing
  obtain rfl : p = q := by
    rw [hstage] at hstage'
    cases hstage'
    rfl
  have houtput := Checked.nextOutput_eq op.metrics hready hj hfields
  rw [← htable, ← hstore] at houtput
  rcases hmade : p.nextOutput op.side.table op.side.store op.side.ledger op.probe op.metrics with
    ⟨result, q, ledger, source, metrics⟩
  rw [hmade] at houtput
  have hengine : (ofOperator op).engine = some p := congrArg Stage.engine hstage
  rw [Operator.pullOutput_eq hmade, ← deliver_eq (op.resume _ _ _ _) result (by exact hheld)]
  unfold pullOutput
  rw [hengine]
  show (Checked.nextOutput op.side.table op.side.store op.side.ledger p op.probe op.metrics >>= _) = _
  rw [houtput, pure_bind]
  have hresumed : ofOperator (op.resume q ⟨op.side.table, ledger, op.side.store⟩ source metrics) =
      { ofOperator (op.setProbe source) with engine := some q, ledger := ledger, metrics := metrics } := by
    simp only [ofOperator, Operator.resume, Operator.setProbe, hstage, Stage.state, Stage.engine]
  rw [hresumed]
  rfl

/-- An operator that owes rows of the nested loop makes its next output batch. -/
theorem pullOutput_of_probing (op : Operator P B) {used stored : List Batch} {ending : Option JoinError}
    {probeSchema buildSchema : Option Schema} {keys : JoinKeys} {made : Nat} {p : Probe}
    (h : Probing config probe build used stored ending probeSchema buildSchema keys made op)
    (hstage : op.stage = .probing p) (hheld : op.released = false) :
    (ofOperator op).pullOutput = pure ((op.pullOutput p).1, ofOperator (op.pullOutput p).2) := by
  obtain ⟨j, howing, hsound, houtput, -⟩ := h.owes.owing
  refine pullOutput_eq howing hsound ?_ hstage hheld
  rw [houtput]
  exact Checked.buildWidth_le buildSchema probeSchema config.joinType

/-- The first pull goes on to the output if there is any. -/
theorem next_of_started {m : JoinMachine P B} {op : Operator P B} {result : Except JoinError Unit}
    (hstate : m.state = .unstarted) (hstart : m.start = pure (started (result, op))) :
    m.next = match result with
      | .error e => pure (.failed, (building op).fail e)
      | .ok () => if op.stage.state = .done then pure (.ended, ofOperator op)
        else (ofOperator op).pullOutput := by
  rw [next, hstate]
  simp only [hstart, pure_bind]
  cases result with
  | error e => rfl
  | ok => rfl

omit [BatchSource P] [BatchSource B] in
theorem state_eq_of_stage {stage : Stage} (hstage : op.stage = stage) :
    (ofOperator op).state = stage.state := congrArg Stage.state hstage

theorem next_of_probing {m : JoinMachine P B} (hstate : m.state = .probing) :
    m.next = { m with current := none }.pullOutput := by
  unfold next
  split
  · next hdone => cases hstate.symm.trans hdone
  · next hfailed => cases hstate.symm.trans hfailed
  · next hbuilding => cases hstate.symm.trans hbuilding
  · rfl
  · next hnew => cases hstate.symm.trans hnew

/-- **A pull in any state of a run.** -/
theorem next_eq_of_standing {limit : Nat} (hprobe : Reliable probe) (hbuild : Reliable build)
    (h : Standing config probe build op) (haccounted : op.Accounted limit) :
    (ofOperator op).next = pure (op.next.1, ofOperator op.next.2) := by
  cases h with
  | finished hterminal =>
    rw [Operator.next_of_terminal hterminal, next]
    cases hstage : op.stage with
    | done => rw [state_eq_of_stage hstage]; rfl
    | failed => rw [state_eq_of_stage hstage]; rfl
    | unstarted =>
      rw [hstage] at hterminal
      cases hterminal
    | probing =>
      rw [hstage] at hterminal
      cases hterminal
  | probing h =>
    obtain ⟨p, hstage⟩ := h.stage
    have hheld : op.released = false := haccounted.released_eq.trans h.not_terminal
    rw [Operator.next_of_probing hstage, next_of_probing (state_eq_of_stage hstage)]
    exact pullOutput_of_probing { op with current := none } ⟨h.governed, h.streams, h.joining, h.breaks,
      ⟨h.owes.owing, h.owes.schema⟩, h.failure⟩ hstage hheld
  | unstarted =>
    have hready := start_eq (.ofSources config probe build) rfl rfl hbuild
    rcases start_of_reliable config hprobe hbuild with
      ⟨e, op', hstart, -⟩ | ⟨op', hstart, -, ⟨hdone, -⟩ | ⟨-, _, _, _, _, _, _, hprobing⟩⟩
    · have hheld : op'.released = false :=
        (Operator.accounted_start hstart ⟨haccounted.exact, rfl⟩ rfl).held
      rw [hstart] at hready
      rw [next_of_started rfl hready, Operator.next_of_failed_start rfl hstart]
      simp only [building, fail_eq op' .building e (engine_of_held hheld)]
    · have hshow : op'.showFirst = (.ended, op') := by rw [Operator.showFirst, hdone]
      rw [hstart] at hready
      rw [next_of_started rfl hready, Operator.next_of_start rfl hstart, hshow]
      exact if_pos (congrArg Stage.state hdone)
    · have haccounted' : op'.Accounted limit :=
        Operator.accounted_start hstart ⟨haccounted.exact, rfl⟩ rfl
      obtain ⟨p, hstage⟩ := hprobing.stage
      have hheld : op'.released = false := haccounted'.released_eq.trans hprobing.not_terminal
      have hshow : op'.showFirst = op'.pullOutput p := by rw [Operator.showFirst, hstage]
      have hmore : op'.stage.state ≠ .done := by
        rw [hstage]
        intro hdone
        cases hdone
      rw [hstart] at hready
      rw [next_of_started rfl hready, Operator.next_of_start rfl hstart, hshow]
      exact (if_neg hmore).trans (pullOutput_of_probing op' hprobing hstage hheld)

/-! ### Runs -/

/-- Every call leads where the call of the operator leads. -/
theorem perform_eq_of_standing {limit : Nat} (hprobe : Reliable probe) (hbuild : Reliable build)
    (h : Standing config probe build op) (haccounted : op.Accounted limit) (call : Call) :
    (ofOperator op).perform call = pure (ofOperator (op.perform call)) := by
  have hreleased : op.released = true → op.stage.engine = none :=
    fun h => Stage.engine_of_isTerminal (haccounted.released_eq.symm.trans h)
  cases call with
  | next => rw [perform, next_eq_of_standing hprobe hbuild h haccounted, pure_bind, Operator.perform]
  | takeBatch => rfl
  | takeFailure => rfl
  | kill propagate => rw [perform, kill_eq propagate hreleased, Operator.perform]
  | close => rw [perform, close_eq hreleased, Operator.perform]

/-- **Every sequence of calls** leads where the calls of the operator lead. -/
theorem run_eq_of_standing (hvalid : config.fault? = none) (hprobe : Reliable probe)
    (hbuild : Reliable build) (h : op.Accounted config.memoryLimit ∧ Standing config probe build op)
    (calls : List Call) : (ofOperator op).run calls = pure (ofOperator (op.run calls)) := by
  induction calls generalizing op with
  | nil => rfl
  | cons call calls ih =>
    obtain ⟨haccounted, hstanding⟩ := h
    rw [run, List.foldlM_cons, perform_eq_of_standing hprobe hbuild hstanding haccounted call, pure_bind]
    exact ih ⟨Operator.accounted_perform haccounted call,
      Operator.standing_perform hvalid hprobe hbuild hstanding haccounted.released_eq call⟩

end JoinMachine
end HashJoin
