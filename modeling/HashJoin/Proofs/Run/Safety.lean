import HashJoin.Proofs.Checked.Operator

/-!
# The safety of a run

The parts of an operator check each other: a slot has to come in order and to stand for a row that is
stored, rows need keys and a table to be inserted, a chain needs a table, an output batch something that makes
it, a row has to be addressable, and a row that is written has to fit its columns. None of these checks ever
fails by itself, whatever calls are made over two sources that have what they report, and every index that a
pull takes is in range.

## Main definitions

* `JoinError.isDefensive` — the errors of checks on the parts of a join itself.
* `Operator.Excused` — the errors that an operator may fail by.
* `Operator.Safe` — an operator that has come through its calls without a trap.

## Main results

* `excused_of_cause` — what can end a run.
* `safe_of_run` — **every sequence of calls leads to a safe operator.**
-/

namespace HashJoin

open BatchSource

namespace JoinError

/-- The error is that of a check on the parts of the join itself: they do not fit together, a row or a
batch cannot be addressed, or an output batch cannot be built. -/
def isDefensive : JoinError → Bool
  | internal _ | format _ | unsupported _ (.rowAddress _) | unsupported _ .batchCount => true
  | schemaChanged .. | unsupported .. | outOfMemory .. | cancelled | sourceFailed .. | invalidConfig _ =>
    false

end JoinError

/-! ### Errors -/

namespace JoinKeys

theorem exists_of_mapM_eq_error {α β ε : Type} {f : α → Except ε β} {as : List α} {e : ε}
    (h : as.mapM f = .error e) : ∃ a, f a = .error e := by
  induction as with
  | nil => cases h
  | cons a as ih =>
    rw [List.mapM_cons] at h
    cases hfirst : f a with
    | error e' =>
      rw [hfirst] at h
      cases h
      exact ⟨a, hfirst⟩
    | ok b =>
      cases hrest : as.mapM f with
      | error e' =>
        rw [hfirst, hrest] at h
        cases h
        exact ih hrest
      | ok rest =>
        rw [hfirst, hrest] at h
        cases h

theorem isDefensive_of_resolveSide {side : Side} {schema : Option Schema} {conditions : List Condition}
    {e : JoinError} (h : resolveSide side schema conditions = .error e) : e.isDefensive = false := by
  unfold resolveSide at h
  split at h
  · cases h
  · obtain ⟨c, hc⟩ := exists_of_mapM_eq_error h
    simp only [resolveColumn] at hc
    split at hc
    · cases hc
      rfl
    · split at hc
      · cases hc
        rfl
      · split at hc
        · cases hc
          rfl
        · cases hc

theorem isDefensive_of_familyFault? {conditions : List Condition} {build probe : List KeyColumn}
    {e : JoinError} (h : familyFault? conditions build probe = some e) : e.isDefensive = false := by
  fun_induction familyFault? conditions build probe with
  | case1 =>
    cases h
    rfl
  | case2 _ _ _ _ _ _ _ ih => exact ih h
  | case3 => cases h

/-- Keys are only left unresolved for a fault of the inputs. -/
theorem isDefensive_of_resolve {conditions : List Condition} {build probe : Option Schema}
    {e : JoinError} (h : resolve conditions build probe = .error e) : e.isDefensive = false := by
  unfold resolve at h
  cases hbuild : resolveSide .build build conditions with
  | error e' =>
    rw [hbuild] at h
    cases h
    exact isDefensive_of_resolveSide hbuild
  | ok buildKeys =>
    cases hprobe : resolveSide .probe probe conditions with
    | error e' =>
      rw [hbuild, hprobe] at h
      cases h
      exact isDefensive_of_resolveSide hprobe
    | ok probeKeys =>
      rw [hbuild, hprobe] at h
      cases hfault : familyFault? conditions buildKeys probeKeys with
      | none =>
        simp only [bind, Except.bind, hfault] at h
        cases h
      | some fault =>
        simp only [bind, Except.bind, hfault] at h
        cases h
        exact isDefensive_of_familyFault? hfault

end JoinKeys

theorem Supply.isDefensive_of_objection? {schema : Schema} {b : Batch} {e : JoinError}
    (h : objection? schema b = some e) : e.isDefensive = false := by
  unfold objection? at h
  split at h
  · cases h
  · split at h
    · cases h
      rfl
    · split at h
      · cases h
      · cases h
        rfl

theorem Loading.isDefensive_of_refuses {config : Config} {probeSchema : Option Schema}
    {taken : List Batch} {batch : Batch} {e : JoinError} (h : Refuses config probeSchema taken batch e) :
    e.isDefensive = false := by
  cases h with
  | selection => rfl
  | size => rfl
  | schema => rfl
  | keys _ h => exact JoinKeys.isDefensive_of_resolve h
  | row h =>
    cases h with
    | memory => rfl
    | slots => rfl

namespace Operator

variable {P B : Type} [BatchSource P] [BatchSource B] {config : Config} {probe : P} {build : B}
  {op : Operator P B} {e : JoinError}

/-- The errors that an operator may fail by. -/
inductive Excused (config : Config) (probe : P) (build : B) : JoinError → Prop
  /-- The probe source gives the error. -/
  | probe {e : JoinError} (h : Gives probe e) : Excused config probe build e
  /-- The build source gives the error. -/
  | build {e : JoinError} (h : Gives build e) : Excused config probe build e
  /-- The error is not that of a check on the parts of the join itself. -/
  | outer {e : JoinError} (h : e.isDefensive = false) : Excused config probe build e
  /-- The texts or bytes of an output column are too many. -/
  | overflow {spec : ColumnSpec} (hspec : spec.holdsBytes = true) (h : Overfull config probe build) :
    Excused config probe build (.format (.payload spec))

/-- Whatever ends a run, it is not a check on the parts of the join itself, an overflow aside. -/
theorem excused_of_cause (h : Cause config probe build e) : Excused config probe build e := by
  cases h with
  | probe h =>
    cases h with
    | cause h => exact .probe h
    | noCause => exact .outer rfl
  | build h =>
    cases h with
    | cause h => exact .build h
    | noCause => exact .outer rfl
  | objection h => exact .outer (Supply.isDefensive_of_objection? h)
  | refused h => exact .outer (Loading.isDefensive_of_refuses h)
  | keys h => exact .outer (JoinKeys.isDefensive_of_resolve h)
  | overflow hspec h => exact .overflow hspec h
  | cancelled => exact .outer rfl

/-! ### Runs -/

/-- An operator that some calls have led to without a trap: neither they nor the next pull lacked a part or
took an index that is out of range, and what the operator failed by is excused. -/
structure Safe (config : Config) (probe : P) (build : B) (calls : List Call) (op : Operator P B) :
    Prop where
  /-- The calls of the operator in parts lead to the parts of the operator. -/
  run : (JoinMachine.ofSources config probe build).run calls = pure (.ofOperator op)
  /-- The next pull of these parts is the next pull of the operator. -/
  next : (JoinMachine.ofOperator op).next = pure (op.next.1, .ofOperator op.next.2)
  /-- The cause of a failure. -/
  failure : ∀ e, op.failure = some e → Excused config probe build e

/-- **Every sequence of calls leads to a safe operator.** Take a configuration that can be run and two
sources that have what they report, however they stall, end or fail. Made of checked computations, the calls
do what the calls of the operator do. So no check of the join on its own parts fails: the keys are resolved
and the table is there when rows are inserted, slots are linked in order and stand for rows that are stored,
a schema is only captured while it may be, rows have addresses and the numbers of batches are not wrapped, a
chain has a table, a row that is worked on has a batch, what makes the output is there, and nothing is pulled
while the build side is being filled. Every index of a bucket, a slot, a word of bits, a key column, a row, a
bit, an offset or a payload is in range, in every pull and wherever the pull stops. And what the operator
fails by is an error that a source gives, a fault of the inputs, a want of memory or slots, its cancellation,
or an output column with too many texts or bytes. -/
theorem safe_of_run (hnew : create? config probe build = .ok op) (hprobe : Reliable probe)
    (hbuild : Reliable build) (calls : List Call) :
    Safe config probe build calls (op.run calls) := by
  obtain ⟨haccounted, hstanding⟩ := standing_run hnew hprobe hbuild calls
  have hstart := accounted_create hnew
  obtain ⟨hvalid, rfl⟩ := create?_eq_ok_iff.mp hnew
  have hrun := JoinMachine.run_eq_of_standing hvalid hprobe hbuild ⟨hstart, .unstarted⟩ calls
  rw [JoinMachine.ofOperator_ofSources] at hrun
  exact ⟨hrun, JoinMachine.next_eq_of_standing hprobe hbuild hstanding haccounted,
    fun _ he => excused_of_cause (hstanding.cause_of_failure he)⟩

/-- A full join in output batches of two rows, whose build source has a batch without rows under another
schema in front of one with rows. It is pulled and its batch is taken. The build side has a table, and there
is more output to come. -/
theorem safe_of_run_unfinished :
    let column (name : String) (cells : List Bool) (values : Array Int) : Column :=
      .fixed (.scalar name (.int .bits64) true) (.ofList cells) ⟨.ints .bits64 values, 32⟩
    let blank : Batch := ⟨0, 0, [column "z" [] #[]], none⟩
    let one : Batch := ⟨2, 2, [column "k" [true, false] #[7, 0]], none⟩
    let config : Config :=
      { Config.ofConditions .full [⟨"k", "k", .equals⟩] with minBuckets := 1, batchRows := 2 }
    let probe : Script := .ofSteps "probe" [.notYet, .batch one, .batch one] none
    let build : Script := .ofSteps "build" [.batch blank, .batch one] none
    let calls : List Call := [.next, .takeBatch]
    ∃ op, create? config probe build = .ok op ∧ Safe config probe build calls (op.run calls) ∧
      (op.run calls).stage.state = .probing ∧ (op.run calls).side.table.isSome = true := by
  intro column blank one config probe build calls
  have hvalid : config.fault? = none := Option.isNone_iff_eq_none.mp (by decide +kernel)
  have hnew : create? config probe build = .ok (ofSources config probe build) :=
    create?_eq_ok_iff.mpr ⟨hvalid, rfl⟩
  have hone : HasColumns one := ⟨⟨⟨by decide +kernel, nofun⟩, rfl, rfl⟩, trivial⟩
  have hblank : HasColumns blank := ⟨⟨⟨by decide +kernel, nofun⟩, rfl, rfl⟩, trivial⟩
  have hprobe : Reliable probe := by
    refine Script.reliable fun b hb => ?_
    rcases List.mem_cons.mp hb with rfl | hb
    · exact hone
    · rw [List.mem_singleton.mp hb]
      exact hone
  have hbuild : Reliable build := by
    refine Script.reliable fun b hb => ?_
    rcases List.mem_cons.mp hb with rfl | hb
    · exact hblank
    · rw [List.mem_singleton.mp hb]
      exact hone
  exact ⟨_, hnew, safe_of_run hnew hprobe hbuild calls, by decide +kernel, by decide +kernel⟩

end Operator
end HashJoin
