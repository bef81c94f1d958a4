import HashJoin.Proofs.Memory.Loading
import HashJoin.Proofs.Operator.Frames
import HashJoin.Proofs.Probe.Ledger
import HashJoin.Source.Script

/-!
# The bytes of an operator

Between any two calls the budget of an operator is exact for its build side, and once the operator
has ended the build side holds nothing. The budget keeps count of bytes that go astray, so exactness
also says that no release ever gave back too much, and that the parts gave back everything before
the remainder was given back at once.

## Main definitions

* `Operator.Solvent`, `Operator.Holding` — the budget is exact for the build side, which may have
  been released, or has not been.
* `Operator.Accounted` — the same between two calls, where an operator that has ended has given its
  memory back.

## Main results

* `accounted_perform` — every call keeps the account.
* `reserved_exact_of_run` — the account after all calls, in full.
-/

namespace HashJoin
namespace Operator

variable {P B : Type} {limit : Nat}

/-- The budget is exact for the build side, which is empty once it has been released. -/
structure Solvent (op : Operator P B) (limit : Nat) : Prop where
  /-- What is reserved is what the build side holds. -/
  exact : op.budget.Exact limit op.side.reservedBytes
  /-- An operator that has given its memory back holds nothing. -/
  released : op.released = true → op.side.reservedBytes = 0
  /-- Its counters show the peak. -/
  recorded : op.released = true → op.metrics.peakBytes = op.budget.peak

/-- The budget is exact for the build side, which has not been released. -/
structure Holding (op : Operator P B) (limit : Nat) : Prop where
  /-- What is reserved is what the build side holds. -/
  exact : op.budget.Exact limit op.side.reservedBytes
  /-- Nothing has been given back for good. -/
  held : op.released = false

theorem Holding.toSolvent {op : Operator P B} (h : op.Holding limit) : op.Solvent limit :=
  ⟨h.exact, fun e => absurd (h.held.symm.trans e) Bool.false_ne_true,
    fun e => absurd (h.held.symm.trans e) Bool.false_ne_true⟩

/-- The state of the memory between two calls. -/
structure Accounted (op : Operator P B) (limit : Nat) : Prop extends Solvent op limit where
  /-- The operators that have given their memory back are those that have ended. -/
  released_eq : op.released = op.stage.isTerminal
  /-- Before the first pull nothing is stored. -/
  unstarted : op.stage = .unstarted → op.side = .empty

/-! ### The end -/

theorem solvent_release {op : Operator P B} (h : op.Solvent limit) :
    op.release.Solvent limit ∧ op.release.side.reservedBytes = 0 := by
  unfold release
  split
  · next hdone => exact ⟨h, h.released hdone⟩
  -- the parts give back everything, so the last release gives back nothing
  · have hclear := BuildSide.exact_clear h.exact
    have hall := hclear.2.releaseAll.2
    refine ⟨⟨?_, fun _ => hclear.1, fun _ => rfl⟩, hclear.1⟩
    show Budget.Exact _ _ (op.side.clear op.budget).1.reservedBytes
    rw [hclear.1]
    exact hall

variable [BatchSource P] [BatchSource B]

theorem solvent_tearDown {op : Operator P B} (h : op.Solvent limit) : op.tearDown.Solvent limit := by
  obtain ⟨hrel, hzero⟩ := solvent_release h
  refine ⟨?_, fun _ => by rw [side_tearDown, hzero], ?_⟩
  · rw [budget_tearDown, side_tearDown]
    exact hrel.exact
  · intro _
    rw [metrics_tearDown, budget_tearDown]
    exact hrel.recorded (released_release op)

/-- An operator that is torn down at the end of its last stage is accounted for. -/
theorem accounted_tearDown {op : Operator P B} (h : op.Solvent limit)
    (hstage : op.stage.isTerminal = true) : op.tearDown.Accounted limit := by
  refine ⟨solvent_tearDown h, ?_, ?_⟩
  · rw [released_tearDown, stage_tearDown, hstage]
  · intro hun
    rw [stage_tearDown] at hun
    rw [hun] at hstage
    cases hstage

theorem accounted_finish {op : Operator P B} (h : op.Solvent limit) : op.finish.Accounted limit :=
  accounted_tearDown ⟨h.exact, h.released, h.recorded⟩ rfl

theorem accounted_fail {op : Operator P B} (h : op.Solvent limit) (cause : JoinError) :
    (op.fail cause).Accounted limit :=
  accounted_tearDown ⟨h.exact, h.released, h.recorded⟩ rfl

theorem accounted_close {op : Operator P B} (h : op.Accounted limit) : op.close.Accounted limit := by
  unfold close
  by_cases hstage : op.stage.isTerminal = true
  · rw [if_pos hstage]
    exact accounted_tearDown h.toSolvent hstage
  · rw [if_neg hstage]
    exact accounted_tearDown ⟨h.exact, h.released, h.recorded⟩ rfl

theorem accounted_kill {op : Operator P B} (h : op.Accounted limit) (propagate : Bool) :
    (op.kill propagate).Accounted limit := by
  unfold kill
  by_cases hstage : op.stage.isTerminal = true
  · rw [if_pos hstage]
    cases propagate with
    | false => exact accounted_tearDown ⟨h.exact, h.released, h.recorded⟩ hstage
    | true => exact accounted_tearDown h.toSolvent hstage
  · rw [if_neg hstage]
    cases propagate <;> exact accounted_tearDown ⟨h.exact, h.released, h.recorded⟩ rfl

/-! ### The first pull -/

variable {op op' : Operator P B} {probeSchema : Option Schema}

omit [BatchSource P] in
theorem holding_fillBuild {first : Option Batch} {result : Except JoinError JoinKeys}
    (hfill : op.fillBuild first probeSchema = (result, op')) (h : op.Holding limit)
    (hside : op.side = .empty) : op'.Holding limit := by
  have hstart : Loading.Balanced ⟨none, op.side.ledger, op.side.store, op.budget, op.metrics⟩
      limit := by
    refine ⟨?_, fun t keys e => by cases e⟩
    have hexact := h.exact
    rw [hside] at hexact
    rw [Loading.reservedBytes_side, hside]
    exact hexact
  simp only [fillBuild] at hfill
  generalize hload : Loading.fill op.config probeSchema first op.build
    ⟨none, op.side.ledger, op.side.store, op.budget, op.metrics⟩ = loaded at hfill
  obtain ⟨keys, build, loading⟩ := loaded
  cases hfill
  exact ⟨(Loading.balanced_fill hstart hload).exact, h.held⟩

/-- Where the first pull can stop: with an error, before anything is given back, or ready. -/
def StartOutcome (limit : Nat) : Except JoinError Unit → Operator P B → Prop
  | .error _, op => op.Holding limit
  | .ok _, op => op.Accounted limit

theorem accounted_skipOutput {first : Option Batch} {result : Except JoinError Unit}
    (hskip : op.skipOutput first = (result, op')) (h : op.Holding limit) :
    StartOutcome limit result op' := by
  simp only [skipOutput] at hskip
  split at hskip
  · cases hskip
    exact ⟨h.exact, h.held⟩
  · cases hskip
    refine accounted_finish (Holding.toSolvent ?_)
    exact ⟨h.exact, h.held⟩

/-- Beginning with the output reserves nothing; a join that has no output has ended. -/
theorem accounted_startProbing {keys : JoinKeys} {first : Option Batch}
    {result : Except JoinError Unit} (hstart : op.startProbing keys first probeSchema = (result, op'))
    (h : op.Holding limit) : StartOutcome limit result op' := by
  simp only [startProbing] at hstart
  split at hstart
  · exact accounted_skipOutput hstart ⟨h.exact, h.held⟩
  · cases hstart
    refine ⟨Holding.toSolvent ⟨h.exact, h.held⟩, h.held, ?_⟩
    intro hover
    cases hover

theorem accounted_start {result : Except JoinError Unit} (hstart : op.start = (result, op'))
    (h : op.Holding limit) (hside : op.side = .empty) : StartOutcome limit result op' := by
  cases starts_of_start hstart with
  | unprobed hprobe =>
    obtain rfl : op.setProbe _ = _ := congrArg Prod.snd hprobe
    exact ⟨h.exact, h.held⟩
  | unfed hprobe hbuild =>
    obtain rfl : op.setProbe _ = _ := congrArg Prod.snd hprobe
    obtain rfl : Operator.setBuild _ _ = _ := congrArg Prod.snd hbuild
    exact ⟨h.exact, h.held⟩
  | unfilled hprobe hbuild hfill =>
    obtain rfl : op.setProbe _ = _ := congrArg Prod.snd hprobe
    obtain rfl : Operator.setBuild _ _ = _ := congrArg Prod.snd hbuild
    exact holding_fillBuild hfill ⟨h.exact, h.held⟩ hside
  | filled hprobe hbuild hfill hbegin =>
    obtain rfl : op.setProbe _ = _ := congrArg Prod.snd hprobe
    obtain rfl : Operator.setBuild _ _ = _ := congrArg Prod.snd hbuild
    exact accounted_startProbing hbegin (holding_fillBuild hfill ⟨h.exact, h.held⟩ hside)

/-! ### Every call -/

/-- Output reserves nothing: only bits of the ledger change. -/
theorem accounted_pullOutput {p : Probe} (h : op.Holding limit) :
    (op.pullOutput p).2.Accounted limit := by
  rcases hout : p.nextOutput op.side.table op.side.store op.side.ledger op.probe op.metrics with
    ⟨result, q, ledger, source, metrics⟩
  rw [pullOutput_eq hout]
  -- marks are set in words that are there, so the ledger holds as many bytes as before
  have hledger := (Probe.marked_nextOutput hout).reservedBytes_eq
  have hexact : op.budget.Exact limit
      (BuildSide.reservedBytes ⟨op.side.table, ledger, op.side.store⟩) := by
    have hexact := h.exact
    simp only [BuildSide.reservedBytes, hledger] at hexact ⊢
    exact hexact
  have hresumed : (op.resume q ⟨op.side.table, ledger, op.side.store⟩ source metrics).Holding limit :=
    ⟨hexact, h.held⟩
  cases result with
  | error e => exact accounted_fail hresumed.toSolvent e
  | ok made =>
    cases made with
    | none => exact accounted_finish hresumed.toSolvent
    | some batch =>
      refine ⟨Holding.toSolvent ⟨hexact, h.held⟩, h.held, ?_⟩
      intro hunstarted
      cases hunstarted

theorem accounted_next (h : op.Accounted limit) : op.next.2.Accounted limit := by
  have hheld := h.released_eq
  unfold next
  cases hstage : op.stage with
  | done => exact h
  | failed => exact h
  | probing p =>
    rw [hstage] at hheld
    exact accounted_pullOutput ⟨h.exact, hheld⟩
  | unstarted =>
    rw [hstage] at hheld
    rcases hstart : op.start with ⟨e | ⟨⟨⟩⟩, op'⟩
    · have h' : op'.Holding limit := accounted_start hstart ⟨h.exact, hheld⟩ (h.unstarted hstage)
      exact accounted_fail h'.toSolvent e
    · have h' : op'.Accounted limit := accounted_start hstart ⟨h.exact, hheld⟩ (h.unstarted hstage)
      -- the first pull goes on to the output if there is any
      cases hstage' : op'.stage with
      | probing p =>
        have hheld' := h'.released_eq
        rw [hstage'] at hheld'
        simp only [hstage']
        exact accounted_pullOutput ⟨h'.exact, hheld'⟩
      | unstarted =>
        simp only [hstage']
        exact h'
      | done =>
        simp only [hstage']
        exact h'
      | failed =>
        simp only [hstage']
        exact h'

theorem accounted_perform (h : op.Accounted limit) (call : Call) : (op.perform call).Accounted limit := by
  cases call with
  | next => exact accounted_next h
  | takeBatch => exact ⟨⟨h.exact, h.released, h.recorded⟩, h.released_eq, h.unstarted⟩
  | takeFailure => exact ⟨⟨h.exact, h.released, h.recorded⟩, h.released_eq, h.unstarted⟩
  | kill propagate => exact accounted_kill h propagate
  | close => exact accounted_close h

omit [BatchSource P] [BatchSource B] in
theorem accounted_create {config : Config} {probe : P} {build : B}
    (hnew : create? config probe build = .ok op) : op.Accounted config.memoryLimit := by
  obtain ⟨-, rfl⟩ := create?_eq_ok_iff.mp hnew
  exact ⟨Holding.toSolvent ⟨.ofLimit config.memoryLimit, rfl⟩, rfl, fun _ => rfl⟩

/-- **The memory is accounted for after any calls**, of any order and number, on any two sources.
What is reserved is what the build side holds, within the peak and the limit. No release ever gave
back more than was reserved, and nothing was left over for the last one; an operator that has ended
has nothing reserved. -/
theorem reserved_exact_of_run {config : Config} {probe : P} {build : B}
    (hnew : create? config probe build = .ok op) (calls : List Call) :
    (op.run calls).budget.reserved = (op.run calls).side.reservedBytes ∧
      (op.run calls).budget.reserved ≤ (op.run calls).budget.peak ∧
      (op.run calls).budget.peak ≤ config.memoryLimit ∧
      (op.run calls).budget.overdrawn = 0 ∧ (op.run calls).budget.leaked = 0 ∧
      ((op.run calls).stage.isTerminal = true → (op.run calls).budget.reserved = 0) := by
  have h : (op.run calls).Accounted config.memoryLimit :=
    run_induction (motive := fun op => op.Accounted config.memoryLimit) calls
      (accounted_create hnew) fun _ call h => accounted_perform h call
  have hexact := h.exact
  refine ⟨hexact.reserved, hexact.le_peak, ?_, hexact.overdrawn, hexact.leaked, ?_⟩
  · rw [← hexact.limit]
    exact hexact.peak_le
  · intro hended
    rw [hexact.reserved]
    apply h.released
    rw [h.released_eq, hended]

/-- A join whose first build row finds room in the table and none in the ledger: the failure gives
back what the table holds, and a later kill finds nothing left. -/
theorem reserved_exact_of_run_unlinked :
    let batch : Batch :=
      ⟨1, 1, [.fixed (.scalar "k" (.int .bits64) true) (.ofList [true]) ⟨.ints .bits64 #[2], 32⟩],
        none⟩
    let config : Config :=
      { Config.ofConditions .full [⟨"k", "k", .equals⟩] with minBuckets := 1, memoryLimit := 10000 }
    ∃ op : Operator Script Script,
      create? config (.ofSteps "probe" [] none) (.ofSteps "build" [.batch batch] none) = .ok op ∧
        (op.run [.next]).budget.peak = 8208 ∧ (op.run [.next, .kill true]).budget.reserved = 0 := by
  intro batch config
  have hvalid : config.fault? = none := Option.isNone_iff_eq_none.mp (by decide +kernel)
  have hnew : create? config (.ofSteps "probe" [] none) (.ofSteps "build" [.batch batch] none) =
      .ok (ofSources config (Script.ofSteps "probe" [] none)
        (Script.ofSteps "build" [.batch batch] none)) := create?_eq_ok_iff.mpr ⟨hvalid, rfl⟩
  refine ⟨_, hnew, by decide +kernel, ?_⟩
  exact (reserved_exact_of_run hnew [.next, .kill true]).2.2.2.2.2 (by decide +kernel)

end Operator
end HashJoin
