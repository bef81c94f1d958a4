import HashJoin.Proofs.BuildSide.Steps
import HashJoin.Proofs.Operator.Frames
import HashJoin.Proofs.Probe.Supplying
import HashJoin.Proofs.Watch.Source

/-!
# Watching changes nothing

A watched source is pulled, drained and killed as the source itself is, so an operator over two watched
sources goes through the same run as the operator over the sources. Only the log of kills is another:
it has the kills of the inputs themselves, and not those that arrive further down.

## Main definitions

* `Operator.watch` — an operator whose inputs are watched from now on.
* `Operator.Mirrors` — an operator is what a watched one is without the histories.

## Main results

* `pull_source`, `fill_source`, `nextOutput_source` — what is done with a watched source.
* `mirrors_tearDown`, `mirrors_next` — what is done with an operator.
* `mirrors_run` — **a watched run is the run.**
-/

namespace HashJoin

open BatchSource

/-- The batches are walked one by one. -/
theorem Probe.probeInput_eq {σ : Type} [BatchSource σ] (table : Option SlotTable) (store : BuildStore)
    (p : Probe) (source : σ) (metrics : Metrics) (out : Emission) :
    p.probeInput table store source metrics out =
      match probeCurrent table store p out with
      | (.error e, p, out) => (.error e, p, source, metrics, out)
      | (.ok (), q, out) =>
        if q.plan.batchRows ≤ out.writer.rows then (.ok (), q, source, metrics, out)
        else match q.supply.nextBatch source metrics with
          | (.error e, supply, source, metrics) =>
            (.error e, { q with supply := supply }, source, metrics, out)
          | (.ok none, supply, source, metrics) =>
            (.ok (), ⟨q.plan, supply, none, { q.cursor with phase := q.afterInput }⟩, source, metrics,
              out)
          | (.ok (some batch), supply, source, metrics) =>
            probeInput table store ⟨q.plan, supply, some batch, q.cursor.enterBatch⟩ source metrics
              out := by
  rw [probeInput]
  split
  · next hworked => rw [hworked]
  · next hworked =>
    simp only [hworked]
    split
    · rfl
    · split
      · next hfetch => rw [hfetch]
      · next hfetch => rw [hfetch]
      · next hfetch => rw [hfetch]

namespace Watched

variable {σ : Type} [BatchSource σ] {s t : Watched σ} {side : Side}

/-! ### Pulls -/

theorem next_source {report : Pulled} (h : next s = (report, t)) :
    next s.source = (report, t.source) := by
  obtain ⟨rfl, rfl⟩ := Prod.mk.inj h
  rfl

theorem takeFailure_source {cause : Option JoinError} (h : takeFailure s = (cause, t)) :
    takeFailure s.source = (cause, t.source) := by
  obtain ⟨rfl, rfl⟩ := Prod.mk.inj h
  rfl

theorem takeReported_source {left : Nat} {result : Except JoinError (Option Batch)}
    (h : takeReported side left s = (result, t)) :
    takeReported side left s.source = (result, t.source) := by
  have htake : takeBatch s = ((takeBatch s.source).1, ⟨s.label, (takeBatch s.source).2, s.history⟩) := rfl
  unfold takeReported at h ⊢
  rw [htake] at h
  rcases hsource : takeBatch s.source with ⟨_ | b, u⟩
  · rw [hsource] at h
    cases h
    rfl
  · rw [hsource] at h
    cases h
    rfl

theorem pull_source {result : Except JoinError (Option Batch)} (h : pull side s = (result, t)) :
    pull side s.source = (result, t.source) := by
  fun_induction pull side s with
  | case1 s u hnext =>
    rw [pull, next_source hnext]
    exact takeReported_source h
  | case2 s u hnext =>
    rw [pull, next_source hnext]
    exact takeReported_source h
  | case3 s u hnext hleft ih =>
    rw [pull, next_source hnext]
    exact (if_pos hleft).trans (ih h)
  | case4 s u hnext hstuck =>
    cases h
    rw [pull, next_source hnext]
    exact if_neg hstuck
  | case5 s u hnext =>
    cases h
    rw [pull, next_source hnext]
  | case6 s u hnext cause v hcause =>
    cases h
    rw [pull, next_source hnext]
    simp only [takeFailure_source hcause]
  | case7 s u hnext v hcause =>
    cases h
    rw [pull, next_source hnext]
    simp only [takeFailure_source hcause]

/-! ### Reading a source to its end -/

theorem drain_source {config : Config} {probeSchema : Option Schema} {l l' : Loading}
    {result : Except JoinError Unit} (h : l.drain config probeSchema s = (result, t, l')) :
    l.drain config probeSchema s.source = (result, t.source, l') := by
  fun_induction Loading.drain config probeSchema s l with
  | case1 s l e u hpull =>
    cases h
    rw [Loading.drain_eq, pull_source hpull]
  | case2 s l u hpull =>
    cases h
    rw [Loading.drain_eq, pull_source hpull]
  | case3 s l b u hpull _ e l₁ hacc =>
    cases h
    rw [Loading.drain_eq, pull_source hpull]
    simp only [hacc]
  | case4 s l b u hpull _ l₁ hacc ih =>
    rw [Loading.drain_eq, pull_source hpull]
    simp only [hacc]
    exact ih h

theorem fill_source {config : Config} {probeSchema : Option Schema} {first : Option Batch}
    {l l' : Loading} {keys : Except JoinError JoinKeys}
    (h : l.fill config probeSchema first s = (keys, t, l')) :
    l.fill config probeSchema first s.source = (keys, t.source, l') := by
  unfold Loading.fill at h ⊢
  split at h
  · cases h
    rfl
  · split at h
    · next hdrain =>
      cases h
      simp only [drain_source hdrain]
    · next hdrain =>
      cases h
      simp only [drain_source hdrain]
      rfl

theorem drainProbe_source {result : Except JoinError Unit}
    (h : Operator.drainProbe s = (result, t)) :
    Operator.drainProbe s.source = (result, t.source) := by
  fun_induction Operator.drainProbe s with
  | case1 s e u hpull =>
    cases h
    rw [drainProbe_eq, pull_source hpull]
  | case2 s u hpull =>
    cases h
    rw [drainProbe_eq, pull_source hpull]
  | case3 s b u hpull _ ih =>
    rw [drainProbe_eq, pull_source hpull]
    exact ih h

/-! ### Probing -/

theorem fetch_source {supply supply' : Supply} {result : Except JoinError (Option Batch)}
    (h : supply.fetch s = (result, supply', t)) :
    supply.fetch s.source = (result, supply', t.source) := by
  unfold Supply.fetch at h ⊢
  split at h
  · cases h
    rfl
  · split at h
    · next hexhausted =>
      cases h
      exact if_pos hexhausted
    · next hmore =>
      rw [if_neg hmore]
      split at h
      · next hpull =>
        cases h
        rw [pull_source hpull]
      · next hpull =>
        cases h
        rw [pull_source hpull]
      · next hpull =>
        cases h
        rw [pull_source hpull]

theorem nextBatch_source {supply supply' : Supply} {metrics metrics' : Metrics}
    {result : Except JoinError (Option Batch)}
    (h : supply.nextBatch s metrics = (result, supply', t, metrics')) :
    supply.nextBatch s.source metrics = (result, supply', t.source, metrics') := by
  fun_induction Supply.nextBatch supply s metrics with
  | case1 supply s e supply₁ u hfetch =>
    cases h
    rw [Supply.nextBatch_eq, fetch_source hfetch]
  | case2 supply s supply₁ u hfetch =>
    cases h
    rw [Supply.nextBatch_eq, fetch_source hfetch]
  | case3 supply s b supply₁ u hfetch _ hnone ih =>
    rw [Supply.nextBatch_eq, fetch_source hfetch]
    exact (if_pos hnone).trans (ih h)
  | case4 supply s b supply₁ u hfetch _ hrows e hinspect =>
    cases h
    rw [Supply.nextBatch_eq, fetch_source hfetch]
    simp only [if_neg hrows, hinspect]
  | case5 supply s b supply₁ u hfetch _ hrows admitted hinspect =>
    cases h
    rw [Supply.nextBatch_eq, fetch_source hfetch]
    simp only [if_neg hrows, hinspect]

variable {table : Option SlotTable} {store : BuildStore} {p q : Probe} {metrics metrics' : Metrics}
  {out out' : Emission} {result : Except JoinError Unit}

theorem probeInput_source
    (h : p.probeInput table store s metrics out = (result, q, t, metrics', out')) :
    p.probeInput table store s.source metrics out = (result, q, t.source, metrics', out') := by
  fun_induction Probe.probeInput table store p s metrics out with
  | case1 p s metrics out e q₁ out₁ hworked =>
    cases h
    rw [Probe.probeInput_eq, hworked]
  | case2 p s metrics out q₁ out₁ hworked hfull =>
    cases h
    rw [Probe.probeInput_eq, hworked]
    exact if_pos hfull
  | case3 p s metrics out q₁ out₁ hworked hroom e supply u metrics₁ hfetch =>
    cases h
    rw [Probe.probeInput_eq, hworked]
    simp only [if_neg hroom, nextBatch_source hfetch]
  | case4 p s metrics out q₁ out₁ hworked hroom supply u metrics₁ hfetch =>
    cases h
    rw [Probe.probeInput_eq, hworked]
    simp only [if_neg hroom, nextBatch_source hfetch]
    rfl
  | case5 p s metrics out q₁ out₁ hworked hroom b supply u metrics₁ hfetch =>
    rename_i ih
    rw [Probe.probeInput_eq, hworked]
    simp only [if_neg hroom, nextBatch_source hfetch]
    exact ih h

theorem probeStage_source
    (h : p.probeStage table store s metrics out = (result, q, t, metrics', out')) :
    p.probeStage table store s.source metrics out = (result, q, t.source, metrics', out') := by
  unfold Probe.probeStage at h ⊢
  split at h
  · exact probeInput_source h
  · cases h
    rfl
  · cases h
    rfl

theorem output_source (h : p.fill table store s metrics out = (result, q, t, metrics', out')) :
    p.fill table store s.source metrics out = (result, q, t.source, metrics', out') := by
  simp only [Probe.fill] at h ⊢
  rcases hstage : p.probeStage table store s metrics out with ⟨result₁, p₁, t₁, metrics₁, out₁⟩
  rw [hstage] at h
  rw [probeStage_source hstage]
  simp only at h ⊢
  split at h <;> (cases h; rfl)

theorem nextOutput_source {ledger ledger' : MatchLedger} {result : Except JoinError (Option Batch)}
    (h : p.nextOutput table store ledger s metrics = (result, q, ledger', t, metrics')) :
    p.nextOutput table store ledger s.source metrics = (result, q, ledger', t.source, metrics') := by
  unfold Probe.nextOutput at h ⊢
  split at h
  · next hnone =>
    cases h
    exact if_pos hnone
  · next hsome =>
    rw [if_neg hsome]
    split at h
    · next hfill =>
      cases h
      rw [output_source hfill]
    · next hfill =>
      cases h
      rw [output_source hfill]

end Watched

namespace Operator

variable {P B : Type}

/-! ### Operators over watched sources -/

/-- The operator with its inputs watched from now on. -/
def watch (op : Operator P B) : Operator (Watched P) (Watched B) :=
  { op with
    probe := .ofSource "probe" op.probe
    build := .ofSource "build" op.build
    killLog := [] }

/-- The operator is what an operator over watched sources is without their histories. Only the logs of
kills may differ. -/
def Mirrors (op : Operator P B) (w : Operator (Watched P) (Watched B)) : Prop :=
  ∃ log, op = { w with probe := w.probe.source, build := w.build.source, killLog := log }

variable {op : Operator P B} {w w' : Operator (Watched P) (Watched B)}

theorem mirrors_watch (op : Operator P B) : op.Mirrors op.watch := ⟨op.killLog, rfl⟩

theorem Mirrors.setProbe [BatchSource P] (h : op.Mirrors w) (s : Watched P) :
    (op.setProbe s.source).Mirrors (w.setProbe s) := by
  obtain ⟨log, rfl⟩ := h
  exact ⟨_, rfl⟩

theorem Mirrors.setBuild [BatchSource B] (h : op.Mirrors w) (s : Watched B) :
    (op.setBuild s.source).Mirrors (w.setBuild s) := by
  obtain ⟨log, rfl⟩ := h
  exact ⟨_, rfl⟩

variable [BatchSource P] [BatchSource B]

/-! ### The end -/

theorem mirrors_tearDown (h : op.Mirrors w) : op.tearDown.Mirrors w.tearDown := by
  have hrelease : op.release.Mirrors w.release := by
    obtain ⟨log, rfl⟩ := h
    unfold release
    split
    · exact ⟨log, rfl⟩
    · exact ⟨log, rfl⟩
  obtain ⟨log, hlog⟩ := hrelease
  unfold tearDown
  rw [hlog]
  unfold killInputs
  split
  · exact ⟨log, rfl⟩
  · exact ⟨_, rfl⟩

theorem mirrors_finish (h : op.Mirrors w) : op.finish.Mirrors w.finish := by
  obtain ⟨log, rfl⟩ := h
  exact mirrors_tearDown ⟨log, rfl⟩

theorem mirrors_fail (h : op.Mirrors w) (cause : JoinError) :
    (op.fail cause).Mirrors (w.fail cause) := by
  obtain ⟨log, rfl⟩ := h
  exact mirrors_tearDown ⟨log, rfl⟩

theorem mirrors_close (h : op.Mirrors w) : op.close.Mirrors w.close := by
  obtain ⟨log, rfl⟩ := h
  refine mirrors_tearDown ⟨log, ?_⟩
  split <;> rfl

theorem mirrors_kill (h : op.Mirrors w) (propagate : Bool) :
    (op.kill propagate).Mirrors (w.kill propagate) := by
  obtain ⟨log, rfl⟩ := h
  refine mirrors_tearDown ⟨log, ?_⟩
  split <;> split <;> rfl

theorem mirrors_dispose (h : op.Mirrors w) : op.dispose.Mirrors w.dispose := by
  obtain ⟨log, hlog⟩ := mirrors_close h
  unfold dispose
  rw [hlog]
  exact ⟨_, rfl⟩

/-! ### The first pull -/

omit [BatchSource B] in
theorem mirrors_pullProbe {result : Except JoinError (Option Batch)} (h : op.Mirrors w)
    (hpull : w.pullProbe = (result, w')) : ∃ op', op.pullProbe = (result, op') ∧ op'.Mirrors w' := by
  rcases hsource : pull .probe w.probe with ⟨pulled, s⟩
  have hpull' : (pulled, w.setProbe s) = (result, w') := by
    rw [← hpull, pullProbe, hsource]
  cases hpull'
  refine ⟨op.setProbe s.source, ?_, h.setProbe s⟩
  obtain ⟨log, rfl⟩ := h
  rw [pullProbe, Watched.pull_source hsource]

omit [BatchSource P] in
theorem mirrors_pullBuild {result : Except JoinError (Option Batch)} (h : op.Mirrors w)
    (hpull : w.pullBuild = (result, w')) : ∃ op', op.pullBuild = (result, op') ∧ op'.Mirrors w' := by
  rcases hsource : pull .build w.build with ⟨pulled, s⟩
  have hpull' : (pulled, w.setBuild s) = (result, w') := by
    rw [← hpull, pullBuild, hsource]
  cases hpull'
  refine ⟨op.setBuild s.source, ?_, h.setBuild s⟩
  obtain ⟨log, rfl⟩ := h
  rw [pullBuild, Watched.pull_source hsource]

omit [BatchSource P] in
theorem mirrors_fillBuild {first : Option Batch} {probeSchema : Option Schema}
    {keys : Except JoinError JoinKeys} (h : op.Mirrors w)
    (hfill : w.fillBuild first probeSchema = (keys, w')) :
    ∃ op', op.fillBuild first probeSchema = (keys, op') ∧ op'.Mirrors w' := by
  obtain ⟨log, rfl⟩ := h
  simp only [fillBuild] at hfill ⊢
  rcases hload : Loading.fill w.config probeSchema first w.build
    ⟨none, w.side.ledger, w.side.store, w.budget, w.metrics⟩ with ⟨result, s, loading⟩
  rw [hload] at hfill
  cases hfill
  rw [Watched.fill_source hload]
  exact ⟨_, rfl, _, rfl⟩

theorem mirrors_startProbing {keys : JoinKeys} {first : Option Batch} {probeSchema : Option Schema}
    {result : Except JoinError Unit} (h : op.Mirrors w)
    (hbegin : w.startProbing keys first probeSchema = (result, w')) :
    ∃ op', op.startProbing keys first probeSchema = (result, op') ∧ op'.Mirrors w' := by
  obtain ⟨log, rfl⟩ := h
  simp only [startProbing] at hbegin ⊢
  split at hbegin
  · next hskip =>
    rw [if_pos (by exact hskip)]
    -- there is no output, so the probe source is read to its end
    unfold skipOutput at hbegin ⊢
    cases first with
    | none =>
      cases hbegin
      exact ⟨_, rfl, mirrors_finish ⟨_, rfl⟩⟩
    | some b =>
      rcases hdrain : drainProbe w.probe with ⟨e | _, s⟩
      · simp only [Option.isSome_some, if_true, settle, hdrain] at hbegin
        cases hbegin
        simp only [Option.isSome_some, if_true, settle, Watched.drainProbe_source hdrain]
        exact ⟨_, rfl, _, rfl⟩
      · simp only [Option.isSome_some, if_true, settle, hdrain] at hbegin
        cases hbegin
        simp only [Option.isSome_some, if_true, settle, Watched.drainProbe_source hdrain]
        exact ⟨_, rfl, mirrors_finish ⟨_, rfl⟩⟩
  · next hrows =>
    cases hbegin
    rw [if_neg (by exact hrows)]
    exact ⟨_, rfl, _, rfl⟩

/-- The inputs make everything ready in the same way. -/
theorem mirrors_start {result : Except JoinError Unit} (h : op.Mirrors w)
    (hstart : w.start = (result, w')) : ∃ op', op.start = (result, op') ∧ op'.Mirrors w' := by
  have hschema : ∀ {op : Operator P B} {w : Operator (Watched P) (Watched B)}, op.Mirrors w →
      schema? op.probe = schema? w.probe := by
    intro op w h
    obtain ⟨log, rfl⟩ := h
    rfl
  cases starts_of_start hstart with
  | unprobed hprobe =>
    obtain ⟨op₁, hprobe₁, h₁⟩ := mirrors_pullProbe h hprobe
    exact ⟨op₁, by simp only [start, hprobe₁], h₁⟩
  | unfed hprobe hbuild =>
    obtain ⟨op₁, hprobe₁, h₁⟩ := mirrors_pullProbe h hprobe
    obtain ⟨op₂, hbuild₂, h₂⟩ := mirrors_pullBuild h₁ hbuild
    exact ⟨op₂, by simp only [start, hprobe₁, hbuild₂], h₂⟩
  | unfilled hprobe hbuild hfill =>
    obtain ⟨op₁, hprobe₁, h₁⟩ := mirrors_pullProbe h hprobe
    obtain ⟨op₂, hbuild₂, h₂⟩ := mirrors_pullBuild h₁ hbuild
    rw [← hschema h₁] at hfill
    obtain ⟨op₃, hfill₃, h₃⟩ := mirrors_fillBuild h₂ hfill
    exact ⟨op₃, by simp only [start, hprobe₁, hbuild₂, hfill₃], h₃⟩
  | filled hprobe hbuild hfill hbegin =>
    obtain ⟨op₁, hprobe₁, h₁⟩ := mirrors_pullProbe h hprobe
    obtain ⟨op₂, hbuild₂, h₂⟩ := mirrors_pullBuild h₁ hbuild
    rw [← hschema h₁] at hfill hbegin
    obtain ⟨op₃, hfill₃, h₃⟩ := mirrors_fillBuild h₂ hfill
    obtain ⟨op₄, hbegin₄, h₄⟩ := mirrors_startProbing h₃ hbegin
    exact ⟨op₄, by simp only [start, hprobe₁, hbuild₂, hfill₃, hbegin₄], h₄⟩

/-! ### Calls -/

theorem mirrors_deliver (h : op.Mirrors w) (result : Except JoinError (Option Batch)) :
    (op.deliver result).2.Mirrors (w.deliver result).2 := by
  cases result with
  | error e => exact mirrors_fail h e
  | ok made =>
    cases made with
    | none => exact mirrors_finish h
    | some batch =>
      obtain ⟨log, rfl⟩ := h
      exact ⟨log, rfl⟩

theorem mirrors_pullOutput (h : op.Mirrors w) (p : Probe) :
    (op.pullOutput p).2.Mirrors (w.pullOutput p).2 := by
  obtain ⟨log, rfl⟩ := h
  rcases hout : p.nextOutput w.side.table w.side.store w.side.ledger w.probe w.metrics with
    ⟨result, q, ledger, s, metrics⟩
  rw [pullOutput_eq hout, pullOutput_eq (Watched.nextOutput_source hout)]
  refine mirrors_deliver ?_ result
  exact ⟨_, rfl⟩

theorem mirrors_next (h : op.Mirrors w) : op.next.2.Mirrors w.next.2 := by
  have hstage : ∀ {op : Operator P B} {w : Operator (Watched P) (Watched B)}, op.Mirrors w →
      op.stage = w.stage := by
    intro op w h
    obtain ⟨log, rfl⟩ := h
    rfl
  cases hs : w.stage with
  | done =>
    rw [Operator.next, Operator.next, hstage h, hs]
    exact h
  | failed =>
    rw [Operator.next, Operator.next, hstage h, hs]
    exact h
  | probing p =>
    rw [next_of_probing hs, next_of_probing ((hstage h).trans hs)]
    refine mirrors_pullOutput ?_ p
    obtain ⟨log, rfl⟩ := h
    exact ⟨log, rfl⟩
  | unstarted =>
    rcases hstart : w.start with ⟨e | _, w'⟩
    · obtain ⟨op', hstart', h'⟩ := mirrors_start h hstart
      rw [next_of_failed_start hs hstart, next_of_failed_start ((hstage h).trans hs) hstart']
      exact mirrors_fail h' e
    · obtain ⟨op', hstart', h'⟩ := mirrors_start h hstart
      rw [next_of_start hs hstart, next_of_start ((hstage h).trans hs) hstart', showFirst, showFirst]
      rw [hstage h']
      split
      · exact mirrors_pullOutput h' _
      · exact h'

theorem mirrors_perform (h : op.Mirrors w) (call : Call) :
    (op.perform call).Mirrors (w.perform call) := by
  cases call with
  | next => exact mirrors_next h
  | takeBatch =>
    obtain ⟨log, rfl⟩ := h
    exact ⟨log, rfl⟩
  | takeFailure =>
    obtain ⟨log, rfl⟩ := h
    exact ⟨log, rfl⟩
  | kill propagate => exact mirrors_kill h propagate
  | close => exact mirrors_close h

/-- **A watched run is the run.** -/
theorem mirrors_run (h : op.Mirrors w) (calls : List Call) : (op.run calls).Mirrors (w.run calls) := by
  induction calls generalizing op w with
  | nil => exact h
  | cons call calls ih => exact ih (mirrors_perform h call)

end Operator
end HashJoin
