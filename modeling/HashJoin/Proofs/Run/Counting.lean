import HashJoin.Proofs.BuildSide.Counting
import HashJoin.Proofs.Join.Start
import HashJoin.Proofs.Memory.Limit
import HashJoin.Proofs.Probe.Admissions
import HashJoin.Proofs.Run.Alignment
import HashJoin.Proofs.Run.Completing
import HashJoin.Proofs.Run.Standing

/-!
# The counters of a run

Between any two calls the counters of an operator tell what has gone through it: the build batches that
its first pull stored, the probe batches that were admitted, the output batches that were reported, the
shape of the table once the build side was filled, and the most bytes that were ever reserved. What has
gone through an operator is noted here call by call, from what each call does, and not from the
counters. Nothing is counted twice when an output batch stops in the middle of a probe batch, nothing
is counted for batches without rows or for a build batch that was inserted in part, and the end of an
operator, however it comes, changes no count.

## Main definitions

* `Traffic`, `Operator.traffic`, `Operator.account` — what goes through an operator during a call, and
  during some calls.
* `Booked` — counters that tell of it.
* `Operator.Serving` — an operator whose output is on its way.
* `Operator.Tallied` — the state between two calls.

## Main results

* `booked_start`, `booked_pullOutput` — the first pull until output can be made, and an output batch.
* `tallied_perform`, `table_perform` — a call.
* `booked_of_run` — **the counters tell what has gone through an operator.**
-/

namespace HashJoin

open BatchSource

/-! ### What goes through an operator -/

/-- What has gone through an operator. -/
structure Traffic where
  /-- The build batches that were stored. -/
  absorbed : List Batch
  /-- The probe batches that were admitted. -/
  admitted : List Batch
  /-- The output batches that were reported. -/
  returned : List Batch
  /-- Whether an attempt at an output batch has found that there are no more rows. -/
  exhausted : Bool

namespace Traffic

/-- Nothing. -/
def nothing : Traffic := ⟨[], [], [], false⟩

/-- What went through first, and then more. -/
def append (t more : Traffic) : Traffic where
  absorbed := t.absorbed ++ more.absorbed
  admitted := t.admitted ++ more.admitted
  returned := t.returned ++ more.returned
  exhausted := t.exhausted || more.exhausted

@[simp] theorem append_nothing (t : Traffic) : t.append nothing = t := by
  simp [append, nothing]

@[simp] theorem nothing_append (t : Traffic) : nothing.append t = t := by
  simp [append, nothing]

theorem append_assoc (t u v : Traffic) : (t.append u).append v = t.append (u.append v) := by
  simp [append, Bool.or_assoc]

end Traffic

namespace Operator

variable {P B : Type} [BatchSource P] [BatchSource B]

/-- The operator from which a pull makes its output batch. The first pull makes everything ready
before. -/
def ready (op : Operator P B) : Operator P B :=
  match op.stage with
  | .unstarted => op.start.2
  | .probing _ | .done | .failed => op

/-- The build batches that a pull stores: those in the store when the first pull has made everything
ready, or has failed to. -/
def absorbing (op : Operator P B) : List Batch :=
  match op.stage with
  | .unstarted => op.start.2.side.store.batches.toList
  | .probing _ | .done | .failed => []

/-- The probe batches that a pull admits. -/
def admitting (op : Operator P B) : List Batch :=
  match op.ready.stage with
  | .probing p => p.admissions op.ready.side.table op.ready.side.store op.ready.side.ledger
      op.ready.probe op.ready.metrics
  | .unstarted | .done | .failed => []

/-- The batch that a report announces. -/
def announcing (report : Pulled) (op : Operator P B) : List Batch :=
  match report with
  | .batch | .newSchema => op.current.toList
  | .ended | .notYet | .failed => []

/-- What goes through an operator during a call. -/
def traffic (op : Operator P B) : Call → Traffic
  | .next => ⟨op.absorbing, op.admitting, announcing op.next.1 op.next.2,
      op.ready.stage.isProbing && op.next.1 = .ended⟩
  | .takeBatch | .takeFailure | .kill _ | .close => .nothing

/-- What goes through an operator during a sequence of calls. -/
def account (op : Operator P B) : List Call → Traffic
  | [] => .nothing
  | call :: calls => (op.traffic call).append ((op.perform call).account calls)

end Operator

/-! ### What the counters tell -/

/-- The counters of an operator tell what has gone through it, given its configuration, the batches of
its probe source and how they end, the batches of its build source, and whether the build side has been
filled. -/
structure Booked (config : Config) (stream : List Batch) (ending : Option JoinError)
    (loaded : List Batch) (m : Metrics) (filled : Bool) (t : Traffic) : Prop where
  /-- The output batches that were reported. -/
  output : Counts m.outputBatches m.outputRows t.returned
  /-- The build batches that were stored. -/
  build : Counts m.buildBatches m.buildRows t.absorbed
  /-- The probe batches that were admitted. -/
  probe : Counts m.probeBatches m.probeRows t.admitted
  /-- The first build batches with rows were stored. -/
  absorbed : t.absorbed <+: rowBatches loaded
  /-- All of them were, if the build side has been filled. -/
  loaded : filled = true → t.absorbed = rowBatches loaded
  /-- The first probe batches with rows were admitted. -/
  admitted : t.admitted <+: rowBatches stream
  /-- All of them were, if the output has come to its end, and their source had come to its end. -/
  exhausted : t.exhausted = true → ending = none ∧ t.admitted = rowBatches stream
  /-- The table has an entry for each build row, and the buckets that it began with, doubled as often as
  is counted. -/
  table : filled = true → streamRows t.absorbed ≠ [] →
    m.entries = (streamRows t.absorbed).length ∧ m.entries = m.buildRows ∧
      m.buckets = config.minBuckets.nextPowerOfTwo <<< m.resizes
  /-- Without build rows, or before the build side is filled, there is no table. -/
  bare : filled = false ∨ streamRows t.absorbed = [] → m.table = ⟨0, 0, 0, ⟨0, 0⟩⟩

variable {config : Config} {stream loaded : List Batch} {ending : Option JoinError} {m : Metrics}
  {filled : Bool} {t : Traffic}

namespace Booked

/-- The bytes that were reserved are counted apart. -/
theorem recorded (h : Booked config stream ending loaded m filled t) (peak : Nat) :
    Booked config stream ending loaded { m with peakBytes := peak } filled t :=
  ⟨h.output, h.build, h.probe, h.absorbed, h.loaded, h.admitted, h.exhausted, h.table, h.bare⟩

/-- Probe batches that are admitted behind others are counted, and nothing else is. -/
theorem admits {more : List Batch} {ends : Bool} (h : Booked config stream ending loaded m filled t)
    (hnext : t.admitted ++ more <+: rowBatches stream)
    (hover : ends = true → ending = none ∧ t.admitted ++ more = rowBatches stream) :
    Booked config stream ending loaded (m.recordProbes more) filled (t.append ⟨[], more, [], ends⟩) := by
  obtain ⟨n, r, hm, hcounts⟩ := m.recordProbes_eq more
  rw [hm]
  simp only [Traffic.append, List.append_nil]
  refine ⟨h.output, h.build, hcounts _ h.probe, h.absorbed, h.loaded, hnext, ?_, h.table, h.bare⟩
  intro hend
  rcases Bool.or_eq_true_iff.mp hend with hbefore | hnow
  · obtain ⟨hending, hall⟩ := h.exhausted hbefore
    -- all had been admitted before
    refine ⟨hending, hnext.eq_of_length_le ?_⟩
    rw [← hall, List.length_append]
    exact Nat.le_add_right ..
  · exact hover hnow

/-- An output batch that is reported is counted. -/
theorem returns (h : Booked config stream ending loaded m filled t) (b : Batch) :
    Booked config stream ending loaded (m.recordOutput b.rowCount) filled
      (t.append ⟨[], [], [b], false⟩) := by
  simp only [Traffic.append, List.append_nil, Bool.or_false]
  exact ⟨counts_concat h.output b, h.build, h.probe, h.absorbed, h.loaded, h.admitted, h.exhausted,
    h.table, h.bare⟩

end Booked

namespace Operator

variable {P B : Type} {op op' : Operator P B}

theorem metrics_release (op : Operator P B) :
    ∃ peak, op.release.metrics = { op.metrics with peakBytes := peak } := by
  unfold release
  split
  · exact ⟨op.metrics.peakBytes, rfl⟩
  · exact ⟨_, rfl⟩

variable [BatchSource P] [BatchSource B]

/-- The end of an operator changes no counter but the peak. -/
theorem metrics_tearDown_eq (op : Operator P B) :
    ∃ peak, op.tearDown.metrics = { op.metrics with peakBytes := peak } := by
  rw [metrics_tearDown]
  exact metrics_release op

theorem metrics_kill (op : Operator P B) (propagate : Bool) :
    ∃ peak, (op.kill propagate).metrics = { op.metrics with peakBytes := peak } := by
  unfold kill
  cases propagate <;> split <;> exact metrics_tearDown_eq _

theorem metrics_close (op : Operator P B) :
    ∃ peak, op.close.metrics = { op.metrics with peakBytes := peak } := by
  unfold close
  split <;> exact metrics_tearDown_eq _

omit [BatchSource P] [BatchSource B] in
/-- Counters that differ in the peak alone tell the same. -/
theorem booked_congr (h : Booked config stream ending loaded op.metrics op.outputSchema.isSome t)
    (hmetrics : ∃ peak, op'.metrics = { op.metrics with peakBytes := peak })
    (hschema : op'.outputSchema = op.outputSchema) :
    Booked config stream ending loaded op'.metrics op'.outputSchema.isSome t := by
  obtain ⟨peak, hmetrics⟩ := hmetrics
  rw [hmetrics, hschema]
  exact h.recorded peak

omit [BatchSource P] [BatchSource B] in
theorem table_congr (hmetrics : ∃ peak, op'.metrics = { op.metrics with peakBytes := peak }) :
    op'.metrics.table = op.metrics.table := by
  obtain ⟨peak, hmetrics⟩ := hmetrics
  rw [hmetrics]
  rfl

theorem booked_tearDown (h : Booked config stream ending loaded op.metrics op.outputSchema.isSome t) :
    Booked config stream ending loaded op.tearDown.metrics op.tearDown.outputSchema.isSome t :=
  booked_congr h (metrics_tearDown_eq op) (outputSchema_tearDown op)

/-! ### Output batches -/

/-- An operator whose output is on its way: its counters have taken over the table and the peak, and
probing has admitted the first batches that can be probed with. -/
structure Serving (op : Operator P B) (stream : List Batch) (ending : Option JoinError) (p : Probe)
    (admitted : List Batch) : Prop where
  /-- The schema of the output is known. -/
  schema : op.outputSchema.isSome = true
  /-- Output batches have rows. -/
  batchRows : p.plan.batchRows ≠ 0
  /-- The probe batches. -/
  midway : p.Midway op.probe (rowBatches (Supply.probedPart stream ending).1)
    (Supply.probedPart stream ending).2 admitted
  /-- The table. -/
  table : ∀ table, op.side.table = some table → op.metrics.table = table.stats
  /-- The peak. -/
  peak : op.metrics.peakBytes = op.budget.peak

omit [BatchSource B] in
/-- The batch that was reported last is dropped before the next output batch is made. -/
theorem Serving.cleared {p : Probe} {admitted : List Batch} (h : op.Serving stream ending p admitted) :
    Serving { op with current := none } stream ending p admitted :=
  ⟨h.schema, h.batchRows, h.midway, h.table, h.peak⟩

omit [BatchSource P] [BatchSource B] in
/-- A batch is reported in one of two ways. -/
theorem announcing_of_current {batch : Batch} {announced : Bool} {report : Pulled}
    (hcurrent : op.current = some batch)
    (hreport : report = if announced then .batch else .newSchema) :
    announcing report op = [batch] ∧ decide (report = .ended) = false := by
  rw [hreport]
  cases announced
  · exact ⟨by simp [announcing, hcurrent], rfl⟩
  · exact ⟨by simp [announcing, hcurrent], rfl⟩

/-- An output batch counts the probe batches that it admits, and itself when it is reported. -/
theorem booked_pullOutput {p : Probe} {report : Pulled}
    (h : Booked config stream ending loaded op.metrics op.outputSchema.isSome t)
    (hserving : op.Serving stream ending p t.admitted) (hpull : op.pullOutput p = (report, op')) :
    let more := p.admissions op.side.table op.side.store op.side.ledger op.probe op.metrics
    Booked config stream ending loaded op'.metrics op'.outputSchema.isSome
        (t.append ⟨[], more, announcing report op', report = .ended⟩) ∧
      (∀ q, op'.stage = .probing q → op'.Serving stream ending q (t.admitted ++ more)) ∧
      op'.outputSchema = op.outputSchema ∧ op'.metrics.table = op.metrics.table := by
  rcases hrun : p.nextOutput op.side.table op.side.store op.side.ledger op.probe op.metrics with
    ⟨made, q, ledger, source, metrics⟩
  obtain ⟨rfl, hadmitted, hover, hmidway⟩ :=
    Probe.admitted_nextOutput hserving.batchRows hserving.midway hrun
  rw [pullOutput_eq hrun] at hpull
  generalize p.admissions op.side.table op.side.store op.side.ledger op.probe op.metrics = more at *
  have hnext : t.admitted ++ more <+: rowBatches stream :=
    hadmitted.trans ((Supply.probedPart_isPrefix stream).filter _)
  have hgoing : false = true → ending = none ∧ t.admitted ++ more = rowBatches stream :=
    fun hover => absurd hover Bool.false_ne_true
  have htable : (op.metrics.recordProbes more).table = op.metrics.table :=
    op.metrics.table_recordProbes more
  rcases made with e | _ | batch
  -- the admitted batches stay counted when the output batch fails
  · cases hpull
    refine ⟨booked_tearDown (h.admits hnext hgoing), ?_, outputSchema_tearDown _,
      (table_congr (metrics_tearDown_eq _)).trans htable⟩
    intro q' hstage
    rw [fail, stage_tearDown] at hstage
    cases hstage
  · cases hpull
    have hall : ending = none ∧ t.admitted ++ more = rowBatches stream := by
      obtain ⟨hwhole, hending⟩ := hover rfl
      obtain ⟨hended, hpart⟩ := Supply.probedPart_of_ended hending
      rw [hpart] at hwhole
      exact ⟨hended, hwhole⟩
    refine ⟨booked_tearDown (h.admits hnext fun _ => hall), ?_, outputSchema_tearDown _,
      (table_congr (metrics_tearDown_eq _)).trans htable⟩
    intro q' hstage
    rw [finish, stage_tearDown] at hstage
    cases hstage
  · obtain ⟨hreport, hmade⟩ := Prod.mk.inj hpull
    have hcurrent : op'.current = some batch := by rw [← hmade]
    obtain ⟨hone, hgoes⟩ := announcing_of_current hcurrent hreport.symm
    subst hmade
    intro more'
    rw [hone, hgoes]
    have hboth := (h.admits hnext hgoing).returns batch
    have hjoin : Traffic.append ⟨[], more, [], false⟩ ⟨[], [], [batch], false⟩ =
        ⟨[], more, [batch], false⟩ := by
      simp [Traffic.append]
    rw [Traffic.append_assoc, hjoin] at hboth
    refine ⟨hboth, ?_, rfl, htable⟩
    intro q' hstage
    obtain rfl : q = q' := Stage.probing.inj hstage
    refine ⟨hserving.schema, ?_, hmidway batch rfl, ?_, ?_⟩
    · rw [Probe.plan_nextOutput hrun]
      exact hserving.batchRows
    · intro made hmade
      exact htable.trans (hserving.table made hmade)
    · exact (op.metrics.peakBytes_recordProbes more).trans hserving.peak

/-! ### The first pull -/

variable {probe : P} {build : B} {probeFinal : P} {buildFinal : B} {buildEnding : Option JoinError}

omit [BatchSource P] in
/-- The build phase counts the batches that it stores, wherever it stops. -/
theorem counted_fillBuild {first : Option Batch} {probeSchema : Option Schema} {rest : List Batch}
    {keys : Except JoinError JoinKeys} (hempty : op.side = .empty) (hzero : op.metrics = .zero)
    (hdelivers : Delivers .build op.build rest buildEnding buildFinal)
    (hfill : op.fillBuild first probeSchema = (keys, op')) : ∃ (build : B) (l : Loading),
      op' = { op.setBuild build with side := l.side, budget := l.budget, metrics := l.metrics } ∧
      l.metrics = Metrics.zero.recordBuilds l.stored ∧
      l.stored <+: rowBatches (first.toList ++ rest) ∧
      ∀ k, keys = .ok k → l.side.Charted op.config.minBuckets (first.toList ++ rest) := by
  rcases hrun : op.loading.fill op.config probeSchema first op.build with ⟨result, build, l⟩
  have heq : op.fillBuild first probeSchema = (result,
      { op.setBuild build with side := l.side, budget := l.budget, metrics := l.metrics }) := by
    unfold loading at hrun
    simp only [fillBuild, hrun]
  obtain ⟨rfl, rfl⟩ := Prod.mk.inj (heq.symm.trans hfill)
  rw [loading_of_empty hempty, hzero] at hrun
  have hnone : Loading.Counted ⟨none, .empty, .empty, op.budget, .zero⟩ .zero op.config.minBuckets :=
    ⟨rfl, fun table keys hmade => by cases hmade⟩
  obtain ⟨hcounted, hstored⟩ := Loading.counted_fill hnone rfl hdelivers hrun
  refine ⟨build, l, rfl, hcounted.metrics, hstored, ?_⟩
  rintro k rfl
  exact Loading.charted_of_fill hdelivers hrun hcounted

/-- The batches that the build phase has stored are counted before there is a table to be shown. -/
theorem booked_stored {stored : List Batch} (h : stored <+: rowBatches loaded) :
    Booked config stream ending loaded (Metrics.zero.recordBuilds stored) false
      ⟨stored, [], [], false⟩ := by
  obtain ⟨n, r, hm, hcounts⟩ := Metrics.zero.recordBuilds_eq stored
  rw [hm]
  exact ⟨counts_nil, hcounts [] counts_nil, counts_nil, h, nofun, List.nil_prefix, nofun, nofun,
    fun _ => Metrics.table_zero⟩

omit [BatchSource P] [BatchSource B] in
/-- The counters take over the shape of the table when the build side has been filled. -/
theorem booked_settle (stream : List Batch) (ending : Option JoinError) (output : OutputSchema)
    (hmin : 0 < config.minBuckets)
    (hmetrics : op.metrics = Metrics.zero.recordBuilds op.side.store.batches.toList)
    (hcharted : op.side.Charted config.minBuckets loaded) :
    Booked config stream ending loaded (op.settle output).metrics true
        ⟨op.side.store.batches.toList, [], [], false⟩ ∧
      ∀ table, op.side.table = some table → (op.settle output).metrics.table = table.stats := by
  rw [hcharted.batches] at hmetrics ⊢
  obtain ⟨n, r, hm, hcounts⟩ := Metrics.zero.recordBuilds_eq (rowBatches loaded)
  have hbuild : Counts n r (rowBatches loaded) := hcounts [] counts_nil
  rw [hm] at hmetrics
  cases htable : op.side.table with
  | none =>
    have hnil := hcharted.bare.mp htable
    simp only [settle, htable, hmetrics]
    refine ⟨⟨counts_nil, hbuild, counts_nil, List.prefix_rfl, fun _ => rfl, List.nil_prefix, nofun, ?_,
      fun _ => Metrics.table_zero⟩, nofun⟩
    intro _ hrows
    rw [streamRows_rowBatches] at hrows
    exact absurd hnil hrows
  | some table =>
    have hsome : streamRows loaded ≠ [] := by
      intro hnil
      rw [hcharted.bare.mpr hnil] at htable
      cases htable
    have hbuckets := hcharted.buckets table htable
    have hshown := Metrics.table_recordTable op.metrics table
    simp only [settle, htable]
    rw [hmetrics] at hshown ⊢
    refine ⟨⟨counts_nil, hbuild, counts_nil, List.prefix_rfl, fun _ => rfl, List.nil_prefix, nofun, ?_,
      ?_⟩, ?_⟩
    · intro _ _
      rw [streamRows_rowBatches]
      rw [Nat.max_eq_left hmin] at hbuckets
      exact ⟨hcharted.entries table htable, hcharted.entries_eq htable hbuild, hbuckets⟩
    · rintro (hno | hnil)
      · cases hno
      · rw [streamRows_rowBatches] at hnil
        exact absurd hnil hsome
    · intro made hmade
      cases hmade
      exact hshown

/-- What an inner join without build rows leaves of the counters when it reads its probe source to the
end. -/
theorem booked_skipOutput {first : Option Batch} {result : Except JoinError Unit}
    (hskip : op.skipOutput first = (result, op')) (hnone : op.side.store.batches = #[])
    (h : Booked config stream ending loaded op.metrics op.outputSchema.isSome t) :
    Booked config stream ending loaded op'.metrics op'.outputSchema.isSome t ∧
      op'.side.store.batches = #[] ∧ ∀ p, op'.stage = .probing p → op.stage = .probing p := by
  have hrelease : ∀ op : Operator P B, op.side.store.batches = #[] →
      op.release.side.store.batches = #[] := by
    intro op hnone
    unfold release
    split
    · exact hnone
    · rfl
  simp only [skipOutput] at hskip
  split at hskip
  · cases hskip
    exact ⟨h, hnone, fun _ => id⟩
  · cases hskip
    refine ⟨booked_tearDown h, ?_, ?_⟩
    · rw [finish, side_tearDown]
      exact hrelease _ hnone
    · intro p hstage
      rw [stage_finish] at hstage
      cases hstage

/-- The first pull counts the build batches until output can be made, or until it fails. -/
theorem booked_startProbing {keys : JoinKeys} {first : Option Batch} {probeSchema : Option Schema}
    {result : Except JoinError Unit} (hvalid : op.config.fault? = none)
    (hbegin : op.startProbing keys first probeSchema = (result, op')) (hnew : op.stage = .unstarted)
    (hmetrics : op.metrics = Metrics.zero.recordBuilds op.side.store.batches.toList)
    (hcharted : op.side.Charted op.config.minBuckets loaded)
    (hawaits : Supply.Awaits ⟨probeSchema, first, first.isNone⟩ op.probe
      (Supply.probedPart stream ending).1 (Supply.probedPart stream ending).2) :
    Booked op.config stream ending loaded op'.metrics op'.outputSchema.isSome
        ⟨op'.side.store.batches.toList, [], [], false⟩ ∧
      (∀ p, op'.stage = .probing p → op'.Serving stream ending p []) ∧
      ∀ e, result = .error e → ∀ p, op'.stage ≠ .probing p := by
  simp only [startProbing] at hbegin
  generalize OutputSchema.ofSides op.side.store.schema probeSchema op.config.joinType = output at hbegin
  obtain ⟨hbooked, htable⟩ := booked_settle stream ending output
    (Config.minBuckets_pos hvalid) hmetrics hcharted
  split at hbegin
  · next hskip =>
    have hrows : streamRows loaded = [] := by
      have hcount : op.side.store.rowCount = 0 := of_decide_eq_true (Bool.and_eq_true_iff.mp hskip).1
      rw [hcharted.rowCount] at hcount
      exact List.eq_nil_of_length_eq_zero hcount
    have hnone : op.side.store.batches = #[] := by
      rw [← Array.toList_eq_nil_iff, hcharted.batches]
      exact rowBatches_eq_nil hrows
    obtain ⟨hbooked', hnone', hstage⟩ := booked_skipOutput hbegin hnone hbooked
    rw [hnone']
    rw [hnone] at hbooked'
    have hidle : ∀ p, op'.stage ≠ .probing p :=
      fun p hprobing => absurd ((hstage p hprobing).symm.trans hnew) Stage.noConfusion
    exact ⟨hbooked', fun p hprobing => absurd hprobing (hidle p), fun _ _ => hidle⟩
  · cases hbegin
    refine ⟨hbooked, ?_, fun e herror => by cases herror⟩
    intro p hstage
    obtain rfl : Probe.ofPlan _ _ = p := Stage.probing.inj hstage
    refine ⟨rfl, Nat.ne_of_gt (Config.batchRows_pos hvalid), ⟨⟨_, rfl, hawaits, ?_⟩⟩, htable, rfl⟩
    intro hover
    exact absurd rfl hover

omit [BatchSource B] in
/-- Pulling the probe source changes the source and the log. -/
theorem pullProbe_eq {result : Except JoinError (Option Batch)} (h : op.pullProbe = (result, op')) :
    pull .probe op.probe = (result, op'.probe) ∧
      ∃ probe log, op' = { op with probe := probe, killLog := log } := by
  cases h
  exact ⟨rfl, _, _, rfl⟩

omit [BatchSource P] in
/-- Pulling the build source changes the source and the log. -/
theorem pullBuild_eq {result : Except JoinError (Option Batch)} (h : op.pullBuild = (result, op')) :
    ∃ build log, op' = { op with build := build, killLog := log } := by
  cases h
  exact ⟨_, _, rfl⟩

omit [BatchSource B] in
/-- The first pull of the probe source leaves its batches to the supply. -/
theorem awaits_of_pullProbe {first : Option Batch}
    (hprobe : Delivers .probe op.probe stream ending probeFinal)
    (h : op.pullProbe = (.ok first, op')) :
    Supply.Awaits ⟨(first.map Batch.schema).or (schema? op'.probe), first, first.isNone⟩ op'.probe
      (Supply.probedPart stream ending).1 (Supply.probedPart stream ending).2 := by
  obtain ⟨hpull, -⟩ := pullProbe_eq h
  rcases opened_of_delivers hprobe with
    ⟨e, next, hbroken, -⟩ | ⟨first', next, hopened, hschema, hawaits, -⟩
  · cases hpull.symm.trans hbroken
  · cases hpull.symm.trans hopened
    rw [hschema]
    exact hawaits

omit [BatchSource P] in
/-- The first pull of the build source leaves its other batches to the build phase. -/
theorem delivers_of_pullBuild {first : Option Batch}
    (hbuild : Loads op.build loaded buildEnding buildFinal) (h : op.pullBuild = (.ok first, op')) :
    ∃ rest, loaded = first.toList ++ rest ∧ Delivers .build op'.build rest buildEnding buildFinal := by
  obtain ⟨-, hpull⟩ := side_pullBuild h
  cases hbuild with
  | broken hbroken => cases hpull.symm.trans hbroken
  | pulled hpulled hrest =>
    cases hpull.symm.trans hpulled
    exact ⟨_, rfl, hrest⟩

/-- The first pull counts the build batches, wherever it stops. -/
theorem booked_start {result : Except JoinError Unit} (hvalid : config.fault? = none)
    (hprobe : Delivers .probe probe stream ending probeFinal)
    (hbuild : Loads build loaded buildEnding buildFinal)
    (hstart : (ofSources config probe build).start = (result, op')) :
    Booked config stream ending loaded op'.metrics op'.outputSchema.isSome
        ⟨op'.side.store.batches.toList, [], [], false⟩ ∧
      (∀ p, op'.stage = .probing p → op'.Serving stream ending p []) ∧
      ∀ e, result = .error e → ∀ p, op'.stage ≠ .probing p := by
  have hidle : ∀ p, Stage.unstarted ≠ .probing p := fun _ => nofun
  cases starts_of_start hstart with
  | unprobed hfirst =>
    obtain ⟨-, probe₁, log₁, rfl⟩ := pullProbe_eq hfirst
    exact ⟨booked_stored List.nil_prefix, fun p h => absurd h (hidle p), fun _ _ => hidle⟩
  | unfed hfirst hsecond =>
    obtain ⟨-, probe₁, log₁, rfl⟩ := pullProbe_eq hfirst
    obtain ⟨build₁, log₂, rfl⟩ := pullBuild_eq hsecond
    exact ⟨booked_stored List.nil_prefix, fun p h => absurd h (hidle p), fun _ _ => hidle⟩
  | unfilled hfirst hsecond hfill =>
    obtain ⟨-, probe₁, log₁, rfl⟩ := pullProbe_eq hfirst
    obtain ⟨rest, rfl, hdelivers⟩ := delivers_of_pullBuild hbuild hsecond
    obtain ⟨build₁, log₂, rfl⟩ := pullBuild_eq hsecond
    obtain ⟨_, l, rfl, hmetrics, hstored, -⟩ := counted_fillBuild rfl rfl hdelivers hfill
    refine ⟨?_, fun p h => absurd h (hidle p), fun _ _ => hidle⟩
    rw [hmetrics]
    exact booked_stored hstored
  | filled hfirst hsecond hfill hbegin =>
    have hawaits := awaits_of_pullProbe hprobe hfirst
    obtain ⟨-, probe₁, log₁, rfl⟩ := pullProbe_eq hfirst
    obtain ⟨rest, rfl, hdelivers⟩ := delivers_of_pullBuild hbuild hsecond
    obtain ⟨build₁, log₂, rfl⟩ := pullBuild_eq hsecond
    obtain ⟨_, l, rfl, hmetrics, -, hcharted⟩ := counted_fillBuild rfl rfl hdelivers hfill
    exact booked_startProbing hvalid hbegin rfl hmetrics (hcharted _ rfl) hawaits

/-! ### Calls -/

/-- The state between two calls: the counters tell what has gone through the operator, which is nothing
before its first pull. -/
structure Tallied (op : Operator P B) (config : Config) (probe : P) (build : B) (stream : List Batch)
    (ending : Option JoinError) (loaded : List Batch) (t : Traffic) : Prop where
  /-- The counters. -/
  booked : Booked config stream ending loaded op.metrics op.outputSchema.isSome t
  /-- Before the first pull. -/
  unstarted : op.stage = .unstarted → op = ofSources config probe build ∧ t = .nothing
  /-- While output is on its way. -/
  serving : ∀ p, op.stage = .probing p → op.Serving stream ending p t.admitted

omit [BatchSource B] in
theorem tallied_of_terminal
    (h : Booked config stream ending loaded op.metrics op.outputSchema.isSome t)
    (hended : op.stage.isTerminal = true) : op.Tallied config probe build stream ending loaded t := by
  refine ⟨h, ?_, ?_⟩
  · intro hstage
    rw [hstage] at hended
    cases hended
  · intro p hstage
    rw [hstage] at hended
    cases hended

theorem tallied_pullOutput (probe : P) (build : B) {p : Probe} {report : Pulled}
    (h : Booked config stream ending loaded op.metrics op.outputSchema.isSome t)
    (hserving : op.Serving stream ending p t.admitted) (hpull : op.pullOutput p = (report, op')) :
    op'.Tallied config probe build stream ending loaded (t.append
        ⟨[], p.admissions op.side.table op.side.store op.side.ledger op.probe op.metrics,
          announcing report op', report = .ended⟩) ∧
      op'.outputSchema = op.outputSchema ∧ op'.metrics.table = op.metrics.table := by
  obtain ⟨hbooked, hnext, hkept⟩ := booked_pullOutput h hserving hpull
  refine ⟨⟨hbooked, ?_, hnext⟩, hkept⟩
  intro hstage
  have hleft := stage_pullOutput op p
  rw [hpull] at hleft
  exact absurd hstage hleft

/-- Nothing goes through an operator that has ended. -/
theorem traffic_of_terminal (h : op.stage.isTerminal = true) (call : Call) :
    op.traffic call = .nothing := by
  cases call with
  | takeBatch => rfl
  | takeFailure => rfl
  | kill => rfl
  | close => rfl
  | next =>
    cases hstage : op.stage with
    | unstarted =>
      rw [hstage] at h
      cases h
    | probing p =>
      rw [hstage] at h
      cases h
    | done => simp [traffic, absorbing, admitting, ready, next, hstage, announcing, Stage.isProbing,
        Traffic.nothing]
    | failed => simp [traffic, absorbing, admitting, ready, next, hstage, announcing, Stage.isProbing,
        Traffic.nothing]

/-- The first pull. -/
theorem tallied_first (hvalid : config.fault? = none)
    (hprobe : Delivers .probe probe stream ending probeFinal)
    (hbuild : Loads build loaded buildEnding buildFinal) :
    (ofSources config probe build).next.2.Tallied config probe build stream ending loaded
      ((ofSources config probe build).traffic .next) := by
  have hnew : (ofSources config probe build).stage = .unstarted := rfl
  generalize hop : ofSources config probe build = op at *
  rcases hstart : op.start with ⟨result, op₁⟩
  rw [← hop] at hstart
  obtain ⟨hbooked, hserving, hidle⟩ := booked_start hvalid hprobe hbuild hstart
  rw [hop] at hstart
  have hready : op.ready = op₁ := by rw [ready, hnew]; exact congrArg Prod.snd hstart
  have habsorbing : op.absorbing = op₁.side.store.batches.toList := by
    rw [absorbing, hnew]
    simp only [hstart]
  simp only [traffic, admitting, hready, habsorbing]
  rcases result with e | ⟨⟨⟩⟩
  · rw [next_of_failed_start hnew hstart]
    have hquiet := hidle e rfl
    refine tallied_of_terminal ?_ (by rw [stage_fail]; rfl)
    cases hstage : op₁.stage with
    | probing p => exact absurd hstage (hquiet p)
    | unstarted => exact booked_tearDown hbooked
    | done => exact booked_tearDown hbooked
    | failed => exact booked_tearDown hbooked
  · rw [next_of_start hnew hstart]
    cases hstage : op₁.stage with
    | unstarted => exact absurd hstage (stage_start hstart)
    | done =>
      have hshown : op₁.showFirst = (.ended, op₁) := by rw [showFirst, hstage]
      rw [hshown]
      exact tallied_of_terminal hbooked (by rw [hstage]; rfl)
    | failed =>
      have hshown : op₁.showFirst = (.ended, op₁) := by rw [showFirst, hstage]
      rw [hshown]
      exact tallied_of_terminal hbooked (by rw [hstage]; rfl)
    | probing p =>
      have hshown : op₁.showFirst = op₁.pullOutput p := by rw [showFirst, hstage]
      rw [hshown]
      rcases hpull : op₁.pullOutput p with ⟨report, op'⟩
      obtain ⟨hmore, -⟩ := tallied_pullOutput probe build hbooked (hserving p hstage) hpull
      simpa only [Traffic.append, List.append_nil, List.nil_append, Bool.false_or, Stage.isProbing,
        Bool.true_and] using hmore

/-- A pull while output is on its way. -/
theorem tallied_resumed {p : Probe} (h : op.Tallied config probe build stream ending loaded t)
    (hstage : op.stage = .probing p) :
    op.next.2.Tallied config probe build stream ending loaded (t.append (op.traffic .next)) ∧
      op.next.2.outputSchema = op.outputSchema ∧ op.next.2.metrics.table = op.metrics.table := by
  rcases hnext : op.next with ⟨report, op'⟩
  have hready : op.ready = op := by rw [ready, hstage]
  simp only [traffic, hnext, absorbing, admitting, hready, hstage, Stage.isProbing, Bool.true_and]
  rw [next_of_probing hstage] at hnext
  have hbooked : Booked config stream ending loaded ({ op with current := none } : Operator P B).metrics
      ({ op with current := none } : Operator P B).outputSchema.isSome t := h.booked
  have hmore := tallied_pullOutput probe build hbooked (h.serving p hstage).cleared hnext
  exact hmore

/-- A pull. -/
theorem tallied_next (hvalid : config.fault? = none)
    (hprobe : Delivers .probe probe stream ending probeFinal)
    (hbuild : Loads build loaded buildEnding buildFinal)
    (h : op.Tallied config probe build stream ending loaded t) :
    op.next.2.Tallied config probe build stream ending loaded (t.append (op.traffic .next)) := by
  cases hstage : op.stage with
  | done =>
    have hended : op.stage.isTerminal = true := by rw [hstage]; rfl
    rw [traffic_of_terminal hended, next_of_terminal hended, Traffic.append_nothing]
    exact h
  | failed =>
    have hended : op.stage.isTerminal = true := by rw [hstage]; rfl
    rw [traffic_of_terminal hended, next_of_terminal hended, Traffic.append_nothing]
    exact h
  | unstarted =>
    obtain ⟨rfl, rfl⟩ := h.unstarted hstage
    rw [Traffic.nothing_append]
    exact tallied_first hvalid hprobe hbuild
  | probing p => exact (tallied_resumed h hstage).1

/-- A call. -/
theorem tallied_perform (hvalid : config.fault? = none)
    (hprobe : Delivers .probe probe stream ending probeFinal)
    (hbuild : Loads build loaded buildEnding buildFinal)
    (h : op.Tallied config probe build stream ending loaded t) (call : Call) :
    (op.perform call).Tallied config probe build stream ending loaded (t.append (op.traffic call)) := by
  cases call with
  | next => exact tallied_next hvalid hprobe hbuild h
  | takeBatch =>
    refine ⟨by rw [traffic, Traffic.append_nothing]; exact h.booked, ?_, ?_⟩
    · intro hstage
      obtain ⟨rfl, rfl⟩ := h.unstarted hstage
      exact ⟨rfl, rfl⟩
    · intro p hstage
      rw [traffic, Traffic.append_nothing]
      exact (h.serving p hstage).cleared
  | takeFailure =>
    refine ⟨by rw [traffic, Traffic.append_nothing]; exact h.booked, ?_, ?_⟩
    · intro hstage
      obtain ⟨rfl, rfl⟩ := h.unstarted hstage
      exact ⟨rfl, rfl⟩
    · intro p hstage
      rw [traffic, Traffic.append_nothing]
      obtain ⟨hschema, hrows, hmidway, htable, hpeak⟩ := h.serving p hstage
      exact ⟨hschema, hrows, hmidway, htable, hpeak⟩
  | kill propagate =>
    rw [traffic, Traffic.append_nothing]
    exact tallied_of_terminal
      (booked_congr h.booked (metrics_kill op propagate) (outputSchema_kill op propagate))
      (isTerminal_kill op propagate)
  | close =>
    rw [traffic, Traffic.append_nothing]
    exact tallied_of_terminal (booked_congr h.booked (metrics_close op) (outputSchema_close op))
      (isTerminal_close op)

/-- Once the build side is filled, the counters of the table stay as they are. -/
theorem table_perform (h : op.Tallied config probe build stream ending loaded t)
    (hfilled : op.outputSchema.isSome = true) (call : Call) :
    (op.perform call).outputSchema.isSome = true ∧
      (op.perform call).metrics.table = op.metrics.table := by
  have hsame : ∀ op' : Operator P B, (∃ peak, op'.metrics = { op.metrics with peakBytes := peak }) →
      op'.outputSchema = op.outputSchema →
      op'.outputSchema.isSome = true ∧ op'.metrics.table = op.metrics.table := by
    intro op' hmetrics hschema
    exact ⟨by rw [hschema]; exact hfilled, table_congr hmetrics⟩
  cases call with
  | takeBatch => exact ⟨hfilled, rfl⟩
  | takeFailure => exact ⟨hfilled, rfl⟩
  | kill propagate => exact hsame _ (metrics_kill op propagate) (outputSchema_kill op propagate)
  | close => exact hsame _ (metrics_close op) (outputSchema_close op)
  | next =>
    show op.next.2.outputSchema.isSome = true ∧ op.next.2.metrics.table = op.metrics.table
    cases hstage : op.stage with
    | done =>
      rw [next_of_terminal (by rw [hstage]; rfl)]
      exact ⟨hfilled, rfl⟩
    | failed =>
      rw [next_of_terminal (by rw [hstage]; rfl)]
      exact ⟨hfilled, rfl⟩
    | unstarted =>
      obtain ⟨rfl, -⟩ := h.unstarted hstage
      cases hfilled
    | probing p =>
      obtain ⟨-, hschema, htable⟩ := tallied_resumed h hstage
      exact ⟨by rw [hschema]; exact hfilled, htable⟩

/-! ### Runs -/

omit [BatchSource B] in
/-- Nothing has gone through an operator that is new. -/
theorem tallied_ofSources (probe : P) (build : B) :
    (ofSources config probe build).Tallied config probe build stream ending loaded .nothing := by
  have hzero : Booked config stream ending loaded .zero false .nothing := booked_stored List.nil_prefix
  refine ⟨hzero, ?_, ?_⟩
  · intro _
    exact ⟨rfl, rfl⟩
  · intro p hstage
    cases hstage

theorem tallied_account (hvalid : config.fault? = none)
    (hprobe : Delivers .probe probe stream ending probeFinal)
    (hbuild : Loads build loaded buildEnding buildFinal)
    (h : op.Tallied config probe build stream ending loaded t) (calls : List Call) :
    (op.run calls).Tallied config probe build stream ending loaded (t.append (op.account calls)) := by
  induction calls generalizing op t with
  | nil =>
    rw [account, Traffic.append_nothing]
    exact h
  | cons call calls ih =>
    rw [account, ← Traffic.append_assoc]
    exact ih (tallied_perform hvalid hprobe hbuild h call)

theorem table_run (hvalid : config.fault? = none)
    (hprobe : Delivers .probe probe stream ending probeFinal)
    (hbuild : Loads build loaded buildEnding buildFinal)
    (h : op.Tallied config probe build stream ending loaded t)
    (hfilled : op.outputSchema.isSome = true) (calls : List Call) :
    (op.run calls).metrics.table = op.metrics.table := by
  induction calls generalizing op t with
  | nil => rfl
  | cons call calls ih =>
    obtain ⟨hkept, htable⟩ := table_perform h hfilled call
    exact (ih (tallied_perform hvalid hprobe hbuild h call) hkept).trans htable

/-- **The counters tell what has gone through an operator**, after any calls on any two sources. They
tell of the output batches that were reported, of the build batches that were stored, and of the probe
batches that were admitted, which are the first batches with rows of their sources; the peak is that of
the budget. If the output has come to its end, all probe rows are counted. While output is on its way
the counters show the table as it is, and they keep to that whatever calls follow. -/
theorem booked_of_run (hnew : create? config probe build = .ok op)
    (hprobe : Delivers .probe probe stream ending probeFinal)
    (hbuild : Loads build loaded buildEnding buildFinal) (calls : List Call) :
    let now := op.run calls
    Booked config stream ending loaded now.metrics now.outputSchema.isSome (op.account calls) ∧
      now.metrics.peakBytes = now.budget.peak ∧
      ((op.account calls).exhausted = true →
        now.metrics.probeRows = min (streamRows stream).length wordMax) ∧
      (∀ p table, now.stage = .probing p → now.side.table = some table →
        now.metrics.table = table.stats) ∧
      (now.outputSchema.isSome = true → ∀ later, (now.run later).metrics.table = now.metrics.table) := by
  intro now
  have haccounted : now.Accounted config.memoryLimit :=
    run_induction (motive := fun op => op.Accounted config.memoryLimit) calls
      (accounted_create hnew) fun _ call h => accounted_perform h call
  obtain ⟨hvalid, rfl⟩ := create?_eq_ok_iff.mp hnew
  have htallied := tallied_account hvalid hprobe hbuild (tallied_ofSources probe build) calls
  rw [Traffic.nothing_append] at htallied
  refine ⟨htallied.booked, ?_, ?_, ?_, ?_⟩
  · cases hstage : now.stage with
    | unstarted =>
      have hsame : now = ofSources config probe build := (htallied.unstarted hstage).1
      rw [hsame]
      rfl
    | probing p => exact (htallied.serving p hstage).peak
    | done => exact haccounted.recorded (haccounted.released_eq.trans (by rw [hstage]; rfl))
    | failed => exact haccounted.recorded (haccounted.released_eq.trans (by rw [hstage]; rfl))
  · intro hover
    obtain ⟨-, hall⟩ := htallied.booked.exhausted hover
    rw [htallied.booked.probe.rows, hall, streamRows_rowBatches]
  · intro p table hstage htable
    exact (htallied.serving p hstage).table table htable
  · intro hfilled later
    exact table_run hvalid hprobe hbuild htallied hfilled later

/-- A full join of two probe batches, with a batch without rows between them, to output batches of two
rows. Each probe batch fills one output batch and goes on in a second, and is counted once. -/
theorem booked_of_run_resumed :
    let column (cells : List Bool) (values : Array Int) : Column :=
      .fixed (.scalar "k" (.int .bits64) true) (.ofList cells) ⟨.ints .bits64 values, 32⟩
    let blank : Batch := ⟨0, 0, [column [] #[]], none⟩
    let pair : Batch := ⟨2, 2, [column [true, false] #[7, 0]], none⟩
    let config : Config :=
      { Config.ofConditions .full [⟨"k", "k", .equals⟩] with minBuckets := 1, batchRows := 2 }
    let probe : Script := .ofSteps "probe" [.batch pair, .batch blank, .batch pair] none
    let build : Script := .ofSteps "build" [.batch pair, .notYet, .batch pair] none
    let calls : List Call := [.next, .takeBatch, .next, .next, .next, .next]
    ∃ op : Operator Script Script, create? config probe build = .ok op ∧
      (op.account calls).returned.length = 4 ∧ (op.run calls).metrics.outputBatches = 4 ∧
      (op.account calls).exhausted = true ∧ (op.run calls).metrics.probeRows = 4 := by
  intro column blank pair config probe build calls
  have hvalid : config.fault? = none := Option.isNone_iff_eq_none.mp (by decide +kernel)
  have hnew : create? config probe build = .ok (ofSources config probe build) :=
    create?_eq_ok_iff.mpr ⟨hvalid, rfl⟩
  obtain ⟨probeFinal, hprobe, -⟩ := Script.delivers_of_script (s := probe) rfl .probe
  obtain ⟨buildFinal, hdelivers, -⟩ := Script.delivers_of_script (s := build) rfl .build
  have hbuild : Loads build [pair, pair] none buildFinal := loads_of_delivers hdelivers
  obtain ⟨hbooked, -, hover, -⟩ := booked_of_run hnew hprobe hbuild calls
  have hreturned : ((ofSources config probe build).account calls).returned.length = 4 := by
    decide +kernel
  have hexhausted : ((ofSources config probe build).account calls).exhausted = true := by
    decide +kernel
  refine ⟨_, hnew, hreturned, ?_, hexhausted, ?_⟩
  · rw [hbooked.output.number, hreturned]
    decide
  · rw [hover hexhausted]
    decide +kernel

end Operator
end HashJoin
