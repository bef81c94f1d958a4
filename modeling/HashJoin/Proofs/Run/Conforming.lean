import HashJoin.Proofs.Run.Standing

/-!
# Operators as sources

Whatever calls are made to an operator over two reliable sources, it behaves as whoever pulls it may
expect. It never stalls; the batch that it reports is there, has rows, not too many of them, and the
schema that the operator announces; only the first one is reported with a new schema. The end and a
failure are final, the cause of a failure can be taken once, and nothing replaces it before.

## Main definitions

* `Pulled.isBatch`, `Operator.reports` — the reports of the pulls among some calls.
* `Operator.Conforms` — what whoever holds an operator may expect of it.

## Main results

* `run_of_terminal` — what calls do to an operator that has ended.
* `announced_run` — whether a batch has been reported.
* `conforms_of_run` — **after any calls an operator is a source that keeps the protocol.**
-/

namespace HashJoin

open BatchSource

/-- Whether a report says that there is a batch. -/
def Pulled.isBatch : Pulled → Bool
  | batch | newSchema => true
  | ended | notYet | failed => false

namespace Operator

variable {P B : Type} [BatchSource P] [BatchSource B] {config : Config} {probe : P} {build : B}
  {op : Operator P B}

/-! ### Operators that have ended -/

/-- Nothing that is done to an operator that has ended changes its stage or its schema. The cause of a
failure stays until it is taken. -/
theorem perform_of_terminal (h : op.stage.isTerminal = true) (call : Call) :
    (op.perform call).stage = op.stage ∧ (op.perform call).outputSchema = op.outputSchema ∧
      (op.perform call).failure = if call = .takeFailure then none else op.failure := by
  cases call with
  | next =>
    rw [perform, next_of_terminal h]
    exact ⟨rfl, rfl, rfl⟩
  | takeBatch => exact ⟨rfl, rfl, rfl⟩
  | takeFailure => exact ⟨rfl, rfl, rfl⟩
  | kill propagate => simp [perform, stage_kill, failure_kill, h]
  | close => simp [perform, stage_close, h]

/-- What calls do to an operator that has ended. -/
theorem run_of_terminal (h : op.stage.isTerminal = true) (calls : List Call) :
    (op.run calls).stage = op.stage ∧
      (op.run calls).failure = if .takeFailure ∈ calls then none else op.failure := by
  induction calls generalizing op with
  | nil => exact ⟨rfl, rfl⟩
  | cons call calls ih =>
    obtain ⟨hstage, -, hfailure⟩ := perform_of_terminal h call
    have hover : (op.perform call).stage.isTerminal = true := by
      rw [hstage]
      exact h
    obtain ⟨hstage', hfailure'⟩ := ih hover
    refine ⟨hstage'.trans hstage, hfailure'.trans ?_⟩
    rw [hfailure]
    by_cases hcall : call = .takeFailure
    · simp [hcall]
    · simp [hcall, eq_comm]

/-- An operator that is done stays so. -/
theorem next_run_of_done (h : op.stage = .done) (calls : List Call) :
    (op.run calls).next.1 = .ended := by
  obtain ⟨hstage, -⟩ := run_of_terminal (by rw [h]; rfl) calls
  rw [next, hstage, h]

/-- An operator that has failed stays so. -/
theorem next_run_of_failed (h : op.stage = .failed) (calls : List Call) :
    (op.run calls).next.1 = .failed := by
  obtain ⟨hstage, -⟩ := run_of_terminal (by rw [h]; rfl) calls
  rw [next, hstage, h]

/-! ### Reports -/

/-- What the pulls among some calls report. -/
def reports (op : Operator P B) : List Call → List Pulled
  | [] => []
  | .next :: calls => op.next.1 :: reports op.next.2 calls
  | call :: calls => reports (op.perform call) calls

theorem reports_cons (op : Operator P B) (call : Call) (calls : List Call) :
    op.reports (call :: calls) =
      (if call = .next then [op.next.1] else []) ++ (op.perform call).reports calls := by
  cases call <;> rfl

/-- As long as an operator has not ended, it knows whether it has reported a batch. -/
theorem announced_perform (h : Answers config probe build op) (call : Call)
    (hrunning : (op.perform call).stage.isTerminal = false) :
    (op.perform call).announced =
      (op.announced || (if call = .next then [op.next.1] else []).any Pulled.isBatch) := by
  cases call with
  | next =>
    cases h with
    | batch b hreport _ hannounced =>
      rw [perform, hannounced, hreport]
      cases op.announced <;> rfl
    | ended _ _ _ hnext =>
      rw [perform, hnext] at hrunning
      cases hrunning
    | failed _ _ _ hnext =>
      rw [perform, hnext] at hrunning
      cases hrunning
    | finished hstage _ hnext =>
      rw [perform, hnext, hstage] at hrunning
      cases hrunning
  | takeBatch => exact (Bool.or_false _).symm
  | takeFailure => exact (Bool.or_false _).symm
  | kill propagate =>
    rw [perform, isTerminal_kill] at hrunning
    cases hrunning
  | close =>
    rw [perform, isTerminal_close] at hrunning
    cases hrunning

/-- An operator that has not ended after some calls knows whether it has reported a batch. -/
theorem announced_run (hvalid : config.fault? = none) (hprobe : Reliable probe)
    (hbuild : Reliable build)
    (h : op.Accounted config.memoryLimit ∧ Standing config probe build op) (calls : List Call)
    (hrunning : (op.run calls).stage.isTerminal = false) :
    (op.run calls).announced = (op.announced || (op.reports calls).any Pulled.isBatch) := by
  induction calls generalizing op with
  | nil => exact (Bool.or_false _).symm
  | cons call calls ih =>
    have hnext := standing_calls hvalid hprobe hbuild h [call]
    -- an operator that has ended after the first call would have ended after all
    have hrunning' : (op.perform call).stage.isTerminal = false := by
      cases hend : (op.perform call).stage.isTerminal with
      | false => rfl
      | true =>
        obtain ⟨hstage, -⟩ := run_of_terminal hend calls
        rw [run, List.foldl_cons] at hrunning
        rw [← hend, ← hstage]
        exact hrunning
    rw [reports_cons, List.any_append, ← Bool.or_assoc,
      ← announced_perform (answers_of_standing hvalid hprobe hbuild h.2) call hrunning']
    exact ih hnext hrunning

/-! ### The schema -/

/-- No call changes the schema of the output once it is known. -/
theorem outputSchema_perform {schema : Schema} (h : Answers config probe build op)
    (hschema : op.outputSchema = some schema) (call : Call) :
    (op.perform call).outputSchema = some schema := by
  cases call with
  | next =>
    cases h with
    | batch _ _ _ _ _ _ _ _ hkept => exact hkept schema hschema
    | ended _ _ _ _ _ hkept => exact hkept schema hschema
    | failed _ _ _ _ _ _ hkept => exact hkept schema hschema
    | finished _ _ hnext =>
      rw [perform, hnext]
      exact hschema
  | takeBatch => exact hschema
  | takeFailure => exact hschema
  | kill propagate =>
    rw [perform, outputSchema_kill]
    exact hschema
  | close =>
    rw [perform, outputSchema_close]
    exact hschema

theorem outputSchema_run {schema : Schema} (hvalid : config.fault? = none) (hprobe : Reliable probe)
    (hbuild : Reliable build)
    (h : op.Accounted config.memoryLimit ∧ Standing config probe build op)
    (hschema : op.outputSchema = some schema) (calls : List Call) :
    (op.run calls).outputSchema = some schema := by
  induction calls generalizing op with
  | nil => exact hschema
  | cons call calls ih =>
    refine ih (standing_calls hvalid hprobe hbuild h [call]) ?_
    exact outputSchema_perform (answers_of_standing hvalid hprobe hbuild h.2) hschema call

/-! ### Pulls -/

theorem isBatch_report (announced : Bool) :
    (if announced then Pulled.batch else .newSchema).isBatch = true := by
  cases announced <;> rfl

/-- A batch that is reported is there. -/
theorem Answers.batch_of_isBatch (hpos : 0 < config.batchRows) (h : Answers config probe build op)
    (hreport : op.next.1.isBatch = true) : op.stage.isTerminal = false ∧
      op.next.1 = (if op.announced then .batch else .newSchema) ∧
      ∃ b, op.next.2.current = some b ∧ op.next.2.recordCount = b.rowCount ∧ 1 ≤ b.rowCount ∧
        b.rowCount ≤ config.batchRows ∧ op.next.2.outputSchema = some b.schema := by
  cases h with
  | @batch used stored ending _ _ _ made b hbatch hcurrent _ hmore hshows hstage hnext =>
    have hrows : b.rowCount =
        min config.batchRows ((reachedRows config used stored ending).length - made) := by
      rw [hshows.rowCount, List.length_take, List.length_drop]
    refine ⟨hstage, hbatch, b, hcurrent, ?_, ?_, ?_, ?_⟩
    · rw [recordCount, hcurrent]
      rfl
    · rw [hrows]
      exact Nat.le_min.mpr ⟨hpos, Nat.sub_pos_of_lt hmore⟩
    · rw [hrows]
      exact Nat.min_le_left _ _
    · rw [hnext.owes.schema, hshows.schema]
  | ended hended =>
    rw [hended] at hreport
    cases hreport
  | failed hfailed =>
    rw [hfailed] at hreport
    cases hreport
  | finished _ _ hover =>
    rw [hover] at hreport
    split at hreport <;> cases hreport

/-- Behind every other report there is no batch, and the operator is where it reports to be. -/
theorem Answers.end_of_not_isBatch (h : Answers config probe build op)
    (hreport : op.next.1.isBatch = false) : op.next.2.current = none ∧
      (op.next.1 = .ended ∧ op.next.2.stage = .done ∨
        op.next.1 = .failed ∧ op.next.2.stage = .failed) := by
  cases h with
  | batch _ hbatch =>
    rw [hbatch, isBatch_report] at hreport
    cases hreport
  | ended hended hcurrent _ hnext => exact ⟨hcurrent, .inl ⟨hended, hnext⟩⟩
  | failed hfailed hcurrent _ hnext => exact ⟨hcurrent, .inr ⟨hfailed, hnext⟩⟩
  | finished hstage hcurrent hover =>
    rw [hover]
    refine ⟨hcurrent, ?_⟩
    cases hop : op.stage with
    | done => exact .inl ⟨rfl, rfl⟩
    | failed => exact .inr ⟨rfl, rfl⟩
    | unstarted =>
      rw [hop] at hstage
      cases hstage
    | probing p =>
      rw [hop] at hstage
      cases hstage

/-- A pull that ends the run with a failure has a cause. -/
theorem Answers.failure_of_failed (h : Answers config probe build op)
    (hstage : op.stage.isTerminal = false) (hreport : op.next.1 = .failed) :
    ∃ e, op.next.2.failure = some e := by
  cases h with
  | batch _ hbatch =>
    have hbatch' := isBatch_report op.announced
    rw [← hbatch, hreport] at hbatch'
    cases hbatch'
  | ended hended =>
    rw [hended] at hreport
    cases hreport
  | failed _ _ _ _ hfailure => exact ⟨_, hfailure⟩
  | finished hover =>
    rw [hover] at hstage
    cases hstage

/-! ### The protocol -/

/-- What whoever holds an operator may expect of it, after its pulls have made some reports. -/
structure Conforms (config : Config) (seen : List Pulled) (op : Operator P B) : Prop where
  /-- A pull never stalls. -/
  prompt : op.next.1 ≠ .notYet
  /-- A batch that is reported is there. It has rows, not too many, and the schema that is announced. -/
  batch : op.next.1.isBatch = true → ∃ b, op.next.2.current = some b ∧
    op.next.2.recordCount = b.rowCount ∧ 1 ≤ b.rowCount ∧ b.rowCount ≤ config.batchRows ∧
    op.next.2.outputSchema = some b.schema
  /-- The schema is new with the first batch, and only with it. -/
  newSchema : op.next.1 = .newSchema ↔ op.next.1.isBatch = true ∧ ∀ r ∈ seen, r.isBatch = false
  /-- Behind every other report there is no batch. -/
  noBatch : op.next.1.isBatch = false → op.next.2.current = none ∧ op.next.2.recordCount = 0
  /-- The end is final. -/
  ended : op.next.1 = .ended → ∀ later, (op.next.2.run later).next.1 = .ended
  /-- An operator that is closed has ended, unless it had failed. -/
  closed : op.stage.isTerminal = false → ∀ later, (op.close.run later).next.1 = .ended
  /-- A failure is final. -/
  failed : op.next.1 = .failed → ∀ later, (op.next.2.run later).next.1 = .failed
  /-- An operator that is killed has failed, unless it had ended. -/
  killed : op.stage.isTerminal = false → ∀ propagate later,
    ((op.kill propagate).run later).next.1 = .failed
  /-- The schema that is announced stays. -/
  schema : ∀ schema ∈ op.outputSchema, ∀ later, (op.run later).outputSchema = some schema
  /-- There is no cause of a failure before there is a failure. -/
  sound : op.stage.isTerminal = false → op.takeFailure.1 = none
  /-- A pull that ends the run with a failure gives its cause. -/
  cause : op.stage.isTerminal = false → op.next.1 = .failed → ∃ e, op.next.2.takeFailure.1 = some e
  /-- A kill that ends the run is the cause. -/
  cancelled : op.stage.isTerminal = false → ∀ propagate,
    (op.kill propagate).takeFailure.1 = some .cancelled
  /-- Nothing replaces the cause before it is taken, and nothing brings it back then. -/
  kept : ∀ e, op.takeFailure.1 = some e → ∀ later,
    (op.run later).takeFailure.1 = if .takeFailure ∈ later then none else some e

theorem conforms_of_standing {seen : List Pulled} (hvalid : config.fault? = none)
    (hprobe : Reliable probe) (hbuild : Reliable build)
    (h : op.Accounted config.memoryLimit ∧ Standing config probe build op)
    (hseen : op.stage.isTerminal = false → op.announced = seen.any Pulled.isBatch) :
    Conforms config seen op := by
  have hanswers := answers_of_standing hvalid hprobe hbuild h.2
  have hbatch := hanswers.batch_of_isBatch (Config.batchRows_pos hvalid)
  have hfailed : op.takeFailure.1 ≠ none → op.stage.isTerminal = true := by
    intro hsome
    obtain ⟨e, he⟩ := Option.ne_none_iff_exists'.mp hsome
    exact h.2.terminal_of_failure he
  refine
    { prompt := ?prompt
      batch := fun hreport => (hbatch hreport).2.2
      newSchema := ?newSchema
      noBatch := ?noBatch
      ended := ?ended
      closed := ?closed
      failed := ?failed
      killed := ?killed
      schema := fun _ hschema => outputSchema_run hvalid hprobe hbuild h hschema
      sound := ?sound
      cause := hanswers.failure_of_failed
      cancelled := ?cancelled
      kept := ?kept }
  case prompt =>
    intro hstalled
    obtain ⟨-, ⟨hend, -⟩ | ⟨hend, -⟩⟩ := hanswers.end_of_not_isBatch (by rw [hstalled]; rfl)
    · rw [hstalled] at hend
      cases hend
    · rw [hstalled] at hend
      cases hend
  case newSchema =>
    cases hreport : op.next.1.isBatch with
    | false =>
      refine ⟨fun hnew => ?_, fun hnone => nomatch hnone.1⟩
      rw [hnew] at hreport
      cases hreport
    | true =>
      -- a batch that is not the first is reported without a new schema
      obtain ⟨hrunning, hnext, -⟩ := hbatch hreport
      rw [hnext, hseen hrunning]
      cases hany : seen.any Pulled.isBatch with
      | false => simpa using List.any_eq_false.mp hany
      | true => simpa using List.any_eq_true.mp hany
  case noBatch =>
    intro hreport
    obtain ⟨hcurrent, -⟩ := hanswers.end_of_not_isBatch hreport
    refine ⟨hcurrent, ?_⟩
    rw [recordCount, hcurrent]
    rfl
  case ended =>
    intro hreport
    obtain ⟨-, ⟨-, hstage⟩ | ⟨hend, -⟩⟩ := hanswers.end_of_not_isBatch (by rw [hreport]; rfl)
    · exact next_run_of_done hstage
    · rw [hreport] at hend
      cases hend
  case closed =>
    intro hrunning
    exact next_run_of_done (by rw [stage_close, hrunning]; rfl)
  case failed =>
    intro hreport
    obtain ⟨-, ⟨hend, -⟩ | ⟨-, hstage⟩⟩ := hanswers.end_of_not_isBatch (by rw [hreport]; rfl)
    · rw [hreport] at hend
      cases hend
    · exact next_run_of_failed hstage
  case killed =>
    intro hrunning propagate
    exact next_run_of_failed (by rw [stage_kill, hrunning]; rfl)
  case sound =>
    intro hrunning
    refine Classical.not_not.mp fun hsome => ?_
    rw [hfailed hsome] at hrunning
    cases hrunning
  case cancelled =>
    intro hrunning propagate
    show (op.kill propagate).failure = some .cancelled
    rw [failure_kill, hrunning]
    rfl
  case kept =>
    intro e he later
    obtain ⟨-, hfailure⟩ := run_of_terminal (hfailed (by rw [he]; nofun)) later
    show (op.run later).failure = _
    rw [hfailure]
    exact congrArg (ite _ none ·) he

/-- **After any calls an operator is a source that keeps the protocol.** Take a configuration that can be
run and two sources that have what they report, however they stall, end or fail. Whatever is done to the
operator, in any order, its next pull reports a batch of the announced schema, the end or a failure. The
first batch is the one reported with a new schema, the end and a failure are final, and so is the cause
of a failure until it is taken. -/
theorem conforms_of_run (hnew : create? config probe build = .ok op) (hprobe : Reliable probe)
    (hbuild : Reliable build) (calls : List Call) :
    Conforms config (op.reports calls) (op.run calls) := by
  have hvalid := (create?_eq_ok_iff.mp hnew).1
  have hfresh : op.Accounted config.memoryLimit ∧ Standing config probe build op :=
    standing_run hnew hprobe hbuild []
  refine conforms_of_standing hvalid hprobe hbuild
    (standing_calls hvalid hprobe hbuild hfresh calls) fun hrunning => ?_
  obtain ⟨-, rfl⟩ := create?_eq_ok_iff.mp hnew
  rw [announced_run hvalid hprobe hbuild hfresh calls hrunning]
  exact Bool.false_or _

/-- A full join whose probe source breaks off behind a batch of two rows, in output batches of two rows.
It is pulled, its batch is taken, it is pulled again and fails, and then it is killed and pulled once
more. -/
theorem conforms_of_run_broken :
    let column (cells : List Bool) (values : Array Int) : Column :=
      .fixed (.scalar "k" (.int .bits64) true) (.ofList cells) ⟨.ints .bits64 values, 32⟩
    let one : Batch := ⟨2, 2, [column [true, false] #[7, 0]], none⟩
    let config : Config :=
      { Config.ofConditions .full [⟨"k", "k", .equals⟩] with minBuckets := 1, batchRows := 2 }
    let probe : Script :=
      .ofSteps "probe" [.notYet, .batch one, .fail (.sourceFailed .probe "connection lost")] none
    let build : Script := .ofSteps "build" [.batch one] none
    let calls : List Call := [.next, .takeBatch, .next, .kill true, .next]
    ∃ op, create? config probe build = .ok op ∧ op.reports calls = [.newSchema, .failed, .failed] ∧
      Conforms config (op.reports calls) (op.run calls) := by
  intro column one config probe build calls
  have hvalid : config.fault? = none := Option.isNone_iff_eq_none.mp (by decide +kernel)
  have hnew : create? config probe build = .ok (ofSources config probe build) :=
    create?_eq_ok_iff.mpr ⟨hvalid, rfl⟩
  have hone : HasColumns one := ⟨⟨⟨by decide +kernel, nofun⟩, rfl, rfl⟩, trivial⟩
  have hprobe : Reliable probe := by
    refine Script.reliable fun b hb => ?_
    rw [List.mem_singleton.mp hb]
    exact hone
  have hbuild : Reliable build := by
    refine Script.reliable fun b hb => ?_
    rw [List.mem_singleton.mp hb]
    exact hone
  exact ⟨_, hnew, by decide +kernel, conforms_of_run hnew hprobe hbuild calls⟩

end Operator
end HashJoin
