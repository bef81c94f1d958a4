import HashJoin.Proofs.Join.Start
import HashJoin.Proofs.Memory.Operator
import HashJoin.Proofs.Source.Reliable

/-!
# The states of a run

Whatever calls are made to an operator over two reliable sources, it stands in one of three ways: as it
was made, with some rows of the nested loop still to be shown, or at its end. A pull of it shows a piece
of these rows, the end, or a failure whose cause is one of a few: a source broke off, a batch or the keys
cannot be joined, memory or slots are exhausted, a column overflows, or the join was cancelled.

## Main definitions

* `Operator.Streams` — what two sources deliver.
* `Operator.Overfull` — an output batch with too many texts or bytes.
* `Operator.Cause` — the errors that can end a run.
* `Operator.Probing` — an operator with some rows of the nested loop still to be shown.
* `Operator.Standing` — the states of a run.
* `Operator.Answers` — what a pull shows.

## Main results

* `answers_of_standing` — a pull of an operator in any state of a run.
* `standing_calls`, `standing_run` — every sequence of calls leads to a state of a run.
-/

namespace HashJoin

open BatchSource

namespace Operator

variable {P B : Type} [BatchSource P] [BatchSource B]

/-! ### The states of a run -/

/-- What two sources deliver: the probe batches that are probed with, the build batches, how the probe
batches end, and the schemas of the two sides. -/
inductive Streams (probe : P) (build : B) : List Batch → List Batch → Option JoinError →
    Option Schema → Option Schema → Prop
  /-- The sources deliver some batches. -/
  | delivered {stream stored : List Batch} {probeEnding buildEnding : Option JoinError}
      {probeFinal : P} {buildFinal : B} (hprobe : Delivers .probe probe stream probeEnding probeFinal)
      (hbuild : Loads build stored buildEnding buildFinal) :
      Streams probe build (Supply.probedPart stream probeEnding).1 stored
        (Supply.probedPart stream probeEnding).2 (probeSchemaOf stream (schema? probeFinal))
        (buildSchemaOf stored (schema? buildFinal))

/-- The rows of some output batch of a join of two sources have more texts or bytes in one column than
offsets can address. -/
def Overfull (config : Config) (probe : P) (build : B) : Prop :=
  ∃ used stored ending probeSchema buildSchema made,
    Streams probe build used stored ending probeSchema buildSchema ∧
      ¬ PayloadsFit (((reachedRows config used stored ending).drop made).take config.batchRows)

/-- The errors that can end a run. -/
inductive Cause (config : Config) (probe : P) (build : B) : JoinError → Prop
  /-- The probe source breaks off. -/
  | probe {e : JoinError} (h : Breaks .probe probe e) : Cause config probe build e
  /-- The build source breaks off. -/
  | build {e : JoinError} (h : Breaks .build build e) : Cause config probe build e
  /-- A probe batch cannot be probed with. -/
  | objection {schema : Schema} {b : Batch} {e : JoinError}
      (h : Supply.objection? schema b = some e) : Cause config probe build e
  /-- A build batch is refused. -/
  | refused {probeSchema : Option Schema} {taken : List Batch} {b : Batch} {e : JoinError}
      (h : Loading.Refuses config probeSchema taken b e) : Cause config probe build e
  /-- The keys cannot be resolved. -/
  | keys {buildSchema probeSchema : Option Schema} {e : JoinError}
      (h : JoinKeys.resolve config.conditions buildSchema probeSchema = .error e) :
      Cause config probe build e
  /-- The texts or bytes of an output column are too many. -/
  | overflow {spec : ColumnSpec} (hspec : spec.holdsBytes = true) (h : Overfull config probe build) :
    Cause config probe build (.format (.payload spec))
  /-- The join was cancelled. -/
  | cancelled : Cause config probe build .cancelled

/-- An operator that has made some rows of the nested loop over two streams, and owes the others. -/
structure Probing (config : Config) (probe : P) (build : B) (used stored : List Batch)
    (ending : Option JoinError) (probeSchema buildSchema : Option Schema) (keys : JoinKeys)
    (made : Nat) (op : Operator P B) : Prop where
  /-- The configuration is the same. -/
  governed : op.config = config
  /-- The streams are what the sources deliver. -/
  streams : Streams probe build used stored ending probeSchema buildSchema
  /-- The rows come under the schemas that the keys were resolved by. -/
  joining : Joining config used stored probeSchema buildSchema keys
  /-- The error that the probe rows break off with. -/
  breaks : ∀ e, ending = some e → Cause config probe build e
  /-- The rows that are owed. -/
  owes : op.Owes config used stored ending (.ofSides buildSchema probeSchema config.joinType) made
  /-- There has been no failure. -/
  failure : op.failure = none

/-- The states of a run. -/
inductive Standing (config : Config) (probe : P) (build : B) : Operator P B → Prop
  /-- Nothing has been pulled. -/
  | unstarted : Standing config probe build (ofSources config probe build)
  /-- Some rows are still to be shown. -/
  | probing {op : Operator P B} {used stored : List Batch} {ending : Option JoinError}
      {probeSchema buildSchema : Option Schema} {keys : JoinKeys} {made : Nat}
      (h : Probing config probe build used stored ending probeSchema buildSchema keys made op) :
      Standing config probe build op
  /-- The run is over. -/
  | finished {op : Operator P B} (hstage : op.stage.isTerminal = true) (hcurrent : op.current = none)
      (hfailure : ∀ e, op.failure = some e → Cause config probe build e) :
      Standing config probe build op

variable {config : Config} {probe : P} {build : B} {op : Operator P B}

theorem Probing.stage {used stored : List Batch} {ending : Option JoinError}
    {probeSchema buildSchema : Option Schema} {keys : JoinKeys} {made : Nat}
    (h : Probing config probe build used stored ending probeSchema buildSchema keys made op) :
    ∃ p, op.stage = .probing p := by
  obtain ⟨_, ⟨p, _, hstage, -⟩, -⟩ := h.owes.owing
  exact ⟨p, hstage⟩

theorem Probing.not_terminal {used stored : List Batch} {ending : Option JoinError}
    {probeSchema buildSchema : Option Schema} {keys : JoinKeys} {made : Nat}
    (h : Probing config probe build used stored ending probeSchema buildSchema keys made op) :
    op.stage.isTerminal = false := by
  obtain ⟨p, hstage⟩ := h.stage
  rw [hstage]
  rfl

/-- Between calls there is a failure only when the run is over. -/
theorem Standing.terminal_of_failure {e : JoinError} (h : Standing config probe build op)
    (hfailure : op.failure = some e) : op.stage.isTerminal = true := by
  cases h with
  | unstarted => cases hfailure
  | probing h =>
    rw [h.failure] at hfailure
    cases hfailure
  | finished hstage => exact hstage

/-! ### Pulls -/

/-- What a pull shows in a state of a run. -/
inductive Answers (config : Config) (probe : P) (build : B) (op : Operator P B) : Prop
  /-- The next piece of the rows of the nested loop. -/
  | batch {used stored : List Batch} {ending : Option JoinError}
      {probeSchema buildSchema : Option Schema} {keys : JoinKeys} {made : Nat} (b : Batch)
      (hreport : op.next.1 = if op.announced then .batch else .newSchema)
      (hcurrent : op.next.2.current = some b) (hannounced : op.next.2.announced = true)
      (hmore : made < (reachedRows config used stored ending).length)
      (hshows : Probe.Shows (.ofSides buildSchema probeSchema config.joinType) b
        (((reachedRows config used stored ending).drop made).take config.batchRows))
      (hstage : op.stage.isTerminal = false)
      (hnext : Probing config probe build used stored ending probeSchema buildSchema keys
        (made + config.batchRows) op.next.2)
      (hkept : ∀ schema ∈ op.outputSchema, op.next.2.outputSchema = some schema)
  /-- The end of a run that was not over. -/
  | ended (hreport : op.next.1 = .ended) (hcurrent : op.next.2.current = none)
      (hstage : op.stage.isTerminal = false) (hnext : op.next.2.stage = .done)
      (hfailure : op.next.2.failure = none)
      (hkept : ∀ schema ∈ op.outputSchema, op.next.2.outputSchema = some schema)
  /-- The failure of a run that was not over. -/
  | failed {e : JoinError} (hreport : op.next.1 = .failed) (hcurrent : op.next.2.current = none)
      (hstage : op.stage.isTerminal = false) (hnext : op.next.2.stage = .failed)
      (hfailure : op.next.2.failure = some e) (hcause : Cause config probe build e)
      (hkept : ∀ schema ∈ op.outputSchema, op.next.2.outputSchema = some schema)
  /-- What the run ended with. -/
  | finished (hstage : op.stage.isTerminal = true) (hcurrent : op.current = none)
      (hnext : op.next = (if op.stage matches .done then .ended else .failed, op))

theorem next_of_terminal (h : op.stage.isTerminal = true) :
    op.next = (if op.stage matches .done then .ended else .failed, op) := by
  unfold next
  cases hstage : op.stage with
  | done => rfl
  | failed => rfl
  | unstarted =>
    rw [hstage] at h
    cases h
  | probing p =>
    rw [hstage] at h
    cases h

/-- A pull of an operator that owes rows shows the next piece of them, the end or a failure. -/
theorem answers_of_probing {used stored : List Batch} {ending : Option JoinError}
    {probeSchema buildSchema : Option Schema} {keys : JoinKeys} {made : Nat}
    (hvalid : config.fault? = none)
    (h : Probing config probe build used stored ending probeSchema buildSchema keys made op) :
    Answers config probe build op := by
  obtain ⟨⟨j, howing, hsound, houtput, hsize⟩, hschema⟩ := h.owes
  have hpos : j.plan.batchRows ≠ 0 := by
    rw [hsize]
    exact Nat.ne_of_gt (Config.batchRows_pos hvalid)
  have hfields : (reachedRows config used stored ending).drop made ≠ [] →
      j.plan.output.schema.fields ≠ [] := by
    intro hne
    rw [houtput]
    have hrows : reachedRows config used stored ending ≠ [] := by
      intro hnil
      exact hne (by rw [hnil, List.drop_nil])
    exact h.joining.fields_ne_nil (Config.conditions_ne_nil hvalid) hrows
  cases next_of_owing howing hsound hpos hfields with
  | batch b hsome _ hreport hcurrent hannounced hshows howing' hconfig hfailure hsame =>
    rw [houtput, hsize] at hshows
    have hmore : made < (reachedRows config used stored ending).length := by
      rw [List.ne_nil_iff_length_pos, List.length_drop] at hsome
      omega
    rw [hsize, List.drop_drop] at howing'
    have hsound' := sound_drop hsound config.batchRows
    rw [List.drop_drop] at hsound'
    exact .batch b hreport hcurrent hannounced hmore hshows h.not_terminal
      ⟨hconfig.trans h.governed, h.streams, h.joining, h.breaks, ⟨⟨j, howing', hsound', houtput, hsize⟩,
        hsame.trans hschema⟩, hfailure.trans h.failure⟩ fun _ h => hsame.trans h
  | ended _ _ hreport hcurrent hstage hfailure hsame =>
    exact .ended hreport hcurrent h.not_terminal hstage (hfailure.trans h.failure)
      fun _ h => hsame.trans h
  | failed e hfails hreport hcurrent hstage hfailure hsame =>
    refine .failed hreport hcurrent h.not_terminal hstage hfailure ?_ fun _ h => hsame.trans h
    cases hfails with
    | overflow hover =>
      obtain ⟨spec, hspec, rfl⟩ := hover.error
      have hrows := hover.rows
      rw [hsize] at hrows
      exact .overflow hspec ⟨_, _, _, _, _, _, h.streams, hrows⟩
    | broken hending => exact h.breaks e hending

/-- What ends the part of a stream that is probed with can end the run. -/
theorem cause_of_probedPart {stream : List Batch} {ending : Option JoinError} {e : JoinError}
    (hending : ∀ e, ending = some e → Cause config probe build e)
    (h : (Supply.probedPart stream ending).2 = some e) : Cause config probe build e := by
  cases stream with
  | nil => exact hending e h
  | cons b rest =>
    rcases Supply.usable_ending h with h | ⟨c, -, hobjection⟩
    · exact hending e h
    · exact .objection hobjection

theorem cause_of_fillFails {probeSchema declared : Option Schema} {batches : List Batch}
    {ending : Option JoinError} {e : JoinError}
    (hending : ∀ e, ending = some e → Cause config probe build e)
    (h : Loading.FillFails config probeSchema declared batches ending e) :
    Cause config probe build e := by
  cases h with
  | refused _ h => exact .refused h
  | broken h => exact hending e h
  | keys h => exact .keys h

/-- The first pull fails with one of the causes, ends a join without output, or leaves rows to be shown
that it goes on to show. -/
theorem start_of_reliable (config : Config) (hprobe : Reliable probe) (hbuild : Reliable build) :
    (∃ e op', (ofSources config probe build).start = (.error e, op') ∧ Cause config probe build e) ∨
    ∃ op', (ofSources config probe build).start = (.ok (), op') ∧ op'.current = none ∧
      (op'.stage = .done ∧ op'.failure = none ∨ op'.announced = false ∧
        ∃ used stored ending probeSchema buildSchema keys,
          Probing config probe build used stored ending probeSchema buildSchema keys 0 op') := by
  obtain ⟨stream, ending, final, hdelivers⟩ := exists_delivers .probe probe
  obtain ⟨stored, buildEnding, buildFinal, hloads⟩ := exists_loads build
  obtain ⟨hcolumns, hending⟩ := delivers_of_reliable hprobe hdelivers
  obtain ⟨hbuildColumns, hbuildEnding⟩ := loads_of_reliable hbuild hloads
  have hprobeCause : ∀ e, ending = some e → Cause config probe build e :=
    fun e he => .probe (hending e he)
  have hbuildCause : ∀ e, buildEnding = some e → Cause config probe build e :=
    fun e he => .build (hbuildEnding e he)
  have hempty : (ofSources config probe build).side = .empty := rfl
  rcases start_of_delivers hempty rfl hdelivers hloads
    (fun b hb _ => hcolumns b (Supply.mem_of_mem_probedPart hb).1)
    (fun b hb _ => hbuildColumns b hb) with
    ⟨e, op', hstart, hbroken | hfails⟩ | ⟨keys, op', hstart, -, hcurrent, hfailure, hjoin, hend⟩
  · exact .inl ⟨e, op', hstart, hprobeCause e hbroken⟩
  · exact .inl ⟨e, op', hstart, cause_of_fillFails hbuildCause hfails⟩
  · refine .inr ⟨op', hstart, hcurrent, ?_⟩
    rcases hend with ⟨hdone, -⟩ | ⟨hconfig, hannounced, howes⟩
    · exact .inl ⟨hdone, hfailure⟩
    · exact .inr ⟨hannounced, _, _, _, _, _, keys, hconfig, .delivered hdelivers hloads, hjoin,
        fun e he => cause_of_probedPart hprobeCause he, howes, hfailure⟩

/-- A pull in any state of a run shows the next piece of the rows, the end, or a failure. -/
theorem answers_of_standing (hvalid : config.fault? = none) (hprobe : Reliable probe)
    (hbuild : Reliable build) (h : Standing config probe build op) : Answers config probe build op := by
  cases h with
  | probing h => exact answers_of_probing hvalid h
  | finished hstage hcurrent => exact .finished hstage hcurrent (next_of_terminal hstage)
  | unstarted =>
    rcases start_of_reliable config hprobe hbuild with
      ⟨e, op', hstart, hcause⟩ | ⟨op', hstart, hcurrent, hend⟩
    · have hnext := next_of_failed_start rfl hstart
      refine .failed (e := e) (by rw [hnext]) ?_ rfl ?_ ?_ hcause nofun
      · rw [hnext, fail, current_tearDown]
        exact current_release_of_none (current_of_failed_start hstart)
      · rw [hnext, fail, stage_tearDown]
      · rw [hnext, fail, failure_tearDown]
    · have hnext := next_of_start rfl hstart
      rcases hend with ⟨hdone, hfailure⟩ | ⟨hannounced, used, stored, ending, _, _, keys, hprobing⟩
      · have hshow : op'.showFirst = (.ended, op') := by
          rw [showFirst, hdone]
        rw [hshow] at hnext
        exact .ended (by rw [hnext]) (by rw [hnext]; exact hcurrent) rfl (by rw [hnext]; exact hdone)
          (by rw [hnext]; exact hfailure) nofun
      -- the first pull shows what the next pull of the started operator would show
      · rw [showFirst_eq_next hcurrent (.inr hprobing.stage)] at hnext
        cases answers_of_probing hvalid hprobing with
        | batch b hreport hcurrent' hannounced' hmore hshows _ hnext' =>
          rw [← hnext] at hreport hcurrent' hannounced' hnext'
          rw [hannounced] at hreport
          exact .batch b hreport hcurrent' hannounced' hmore hshows rfl hnext' nofun
        | ended hreport hcurrent' _ hdone hfailure =>
          rw [← hnext] at hreport hcurrent' hdone hfailure
          exact .ended hreport hcurrent' rfl hdone hfailure nofun
        | failed hreport hcurrent' _ hfailed hfailure hcause =>
          rw [← hnext] at hreport hcurrent' hfailed hfailure
          exact .failed hreport hcurrent' rfl hfailed hfailure hcause nofun
        | finished hterminal =>
          rw [hprobing.not_terminal] at hterminal
          cases hterminal

/-! ### Calls -/

/-- An operator that is torn down at its end is over. -/
theorem standing_tearDown (hstage : op.stage.isTerminal = true)
    (hcurrent : op.released = true → op.current = none)
    (hfailure : ∀ e, op.failure = some e → Cause config probe build e) :
    Standing config probe build op.tearDown := by
  refine .finished ?_ ?_ ?_
  · rw [stage_tearDown]
    exact hstage
  · rw [current_tearDown]
    cases hreleased : op.released with
    | false => exact current_release hreleased
    | true => exact current_release_of_none (hcurrent hreleased)
  · rw [failure_tearDown]
    exact hfailure

/-- Between calls there is no batch once the run is over. -/
theorem Standing.current_of_terminal (h : Standing config probe build op)
    (hstage : op.stage.isTerminal = true) : op.current = none := by
  cases h with
  | unstarted => cases hstage
  | probing h =>
    rw [h.not_terminal] at hstage
    cases hstage
  | finished _ hcurrent => exact hcurrent

/-- Every cause that is there can end a run. -/
theorem Standing.cause_of_failure {e : JoinError} (h : Standing config probe build op)
    (hfailure : op.failure = some e) : Cause config probe build e := by
  cases h with
  | unstarted => cases hfailure
  | probing h =>
    rw [h.failure] at hfailure
    cases hfailure
  | finished _ _ hcause => exact hcause e hfailure

theorem standing_kill (h : Standing config probe build op)
    (hreleased : op.released = op.stage.isTerminal) (propagate : Bool) :
    Standing config probe build (op.kill propagate) := by
  unfold kill
  cases hstage : op.stage.isTerminal with
  | true =>
    have hcurrent := h.current_of_terminal hstage
    cases propagate with
    | true => exact standing_tearDown hstage (fun _ => hcurrent) fun e he => h.cause_of_failure he
    | false =>
      exact standing_tearDown (by exact hstage) (fun _ => hcurrent)
        fun e he => h.cause_of_failure he
  | false =>
    have hheld : op.released = false := hreleased.trans hstage
    have hcancelled : ∀ e, some .cancelled = some e → Cause config probe build e := by
      intro e he
      cases he
      exact .cancelled
    cases propagate with
    | true =>
      refine standing_tearDown (by rfl) (fun hnot => ?_) hcancelled
      cases hheld.symm.trans hnot
    | false =>
      refine standing_tearDown (by rfl) (fun hnot => ?_) hcancelled
      cases hheld.symm.trans hnot

theorem standing_close (h : Standing config probe build op)
    (hreleased : op.released = op.stage.isTerminal) : Standing config probe build op.close := by
  unfold close
  cases hstage : op.stage.isTerminal with
  | true =>
    exact standing_tearDown hstage (fun _ => h.current_of_terminal hstage)
      fun e he => h.cause_of_failure he
  | false =>
    refine standing_tearDown (by rfl) (fun hnot => ?_) fun e he => h.cause_of_failure he
    cases (hreleased.trans hstage).symm.trans hnot

/-- Every call leads from a state of a run to a state of a run. -/
theorem standing_perform (hvalid : config.fault? = none) (hprobe : Reliable probe)
    (hbuild : Reliable build) (h : Standing config probe build op)
    (hreleased : op.released = op.stage.isTerminal) (call : Call) :
    Standing config probe build (op.perform call) := by
  cases call with
  | next =>
    cases answers_of_standing hvalid hprobe hbuild h with
    | batch b _ _ _ _ _ _ hnext => exact .probing hnext
    | ended _ hcurrent _ hnext hfailure =>
      refine .finished (by rw [perform, hnext]; rfl) hcurrent ?_
      intro e he
      rw [perform, hfailure] at he
      cases he
    | @failed e _ hcurrent _ hnext hfailure hcause =>
      refine .finished (by rw [perform, hnext]; rfl) hcurrent ?_
      intro e' he'
      rw [perform, hfailure] at he'
      cases he'
      exact hcause
    | finished _ _ hnext =>
      rw [perform, hnext]
      exact h
  | takeBatch =>
    cases h with
    | unstarted => exact .unstarted
    | probing h =>
      exact .probing ⟨h.governed, h.streams, h.joining, h.breaks, ⟨h.owes.owing, h.owes.schema⟩,
        h.failure⟩
    | finished hstage _ hfailure => exact .finished hstage rfl hfailure
  | takeFailure =>
    cases h with
    | unstarted => exact .unstarted
    | probing h =>
      exact .probing ⟨h.governed, h.streams, h.joining, h.breaks, ⟨h.owes.owing, h.owes.schema⟩, rfl⟩
    | finished hstage hcurrent _ => exact .finished hstage hcurrent nofun
  | kill propagate => exact standing_kill h hreleased propagate
  | close => exact standing_close h hreleased

/-- Calls lead from a state of a run to a state of a run, and keep account of the memory. -/
theorem standing_calls (hvalid : config.fault? = none) (hprobe : Reliable probe)
    (hbuild : Reliable build)
    (h : op.Accounted config.memoryLimit ∧ Standing config probe build op) (calls : List Call) :
    (op.run calls).Accounted config.memoryLimit ∧ Standing config probe build (op.run calls) :=
  run_induction (motive := fun op => op.Accounted config.memoryLimit ∧ Standing config probe build op)
    calls h fun _ call h =>
      ⟨accounted_perform h.1 call, standing_perform hvalid hprobe hbuild h.2 h.1.released_eq call⟩

/-- Every sequence of calls leads to a state of a run. -/
theorem standing_run (hnew : create? config probe build = .ok op) (hprobe : Reliable probe)
    (hbuild : Reliable build) (calls : List Call) :
    (op.run calls).Accounted config.memoryLimit ∧ Standing config probe build (op.run calls) := by
  have haccounted := accounted_create hnew
  obtain ⟨hvalid, rfl⟩ := create?_eq_ok_iff.mp hnew
  exact standing_calls hvalid hprobe hbuild ⟨haccounted, .unstarted⟩ calls

end Operator
end HashJoin
