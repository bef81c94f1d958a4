import HashJoin.Proofs.BuildSide.Alignment
import HashJoin.Proofs.Probe.Ledger
import HashJoin.Proofs.Run.Breaking

/-!
# The build side of a run

An operator fills its build side during its first pull, batch by batch, and keeps it until it ends.
Between two build batches, and between two pulls later on, the table, the ledger and the store agree:
the slots run through the rows that the build source has delivered, whatever the sources are and
whatever calls are made.

## Main definitions

* `Operator.AtBoundary` — where the first pull of an operator stands between two build batches.
* `Operator.Keeps` — what an operator keeps between calls.

## Main results

* `aligned_of_boundary`, `aligned_of_start` — the build side while it is filled, and when it has been.
* `keeps_perform` — calls keep the build side as it is, as long as output is on its way.
* `aligned_of_run` — the build side is aligned in all states of a run.
-/

namespace HashJoin

open BatchSource

namespace Operator

variable {P B : Type} [BatchSource P] [BatchSource B] {op op' : Operator P B}
  {taken : List Batch} {l : Loading}

/-! ### The first pull -/

omit [BatchSource P] [BatchSource B] in
/-- What there is of the build side when the first pull begins to fill it. -/
def loading (op : Operator P B) : Loading :=
  ⟨none, op.side.ledger, op.side.store, op.budget, op.metrics⟩

/-- The first pull of an operator has taken in some build batches, and looks for the next. It pulls the
probe source first, whose schema counts, and the first build batch is pulled before the loop. -/
inductive AtBoundary (op : Operator P B) : List Batch → Loading → Prop
  /-- Before the first batch. -/
  | opened {first : Option Batch} {op₁ : Operator P B} (hprobe : op.pullProbe = (.ok first, op₁)) :
    AtBoundary op [] op₁.loading
  /-- Behind the batch that was pulled in advance, and some more. -/
  | behind {first buildFirst : Option Batch} {op₁ op₂ : Operator P B} {l₁ l : Loading}
      {taken : List Batch} {source : B} (hprobe : op.pullProbe = (.ok first, op₁))
      (hbuild : op₁.pullBuild = (.ok buildFirst, op₂))
      (hfirst : op₂.loading.acceptFirst op₂.config
        ((first.map Batch.schema).or (schema? op₁.probe)) buildFirst = (.ok (), l₁))
      (hreached : Loading.Reached op₂.config ((first.map Batch.schema).or (schema? op₁.probe))
        op₂.build l₁ taken source l) : AtBoundary op (buildFirst.toList ++ taken) l

omit [BatchSource B] in
theorem side_pullProbe {first : Except JoinError (Option Batch)}
    (h : op.pullProbe = (first, op')) : op'.side = op.side ∧ op'.build = op.build := by
  cases h
  exact ⟨rfl, rfl⟩

omit [BatchSource P] in
theorem side_pullBuild {first : Except JoinError (Option Batch)}
    (h : op.pullBuild = (first, op')) :
    op'.side = op.side ∧ pull .build op.build = (first, op'.build) := by
  cases h
  exact ⟨rfl, rfl⟩

omit [BatchSource P] in
/-- Filling the build side ends as the loading does, with its build side. -/
theorem side_fillBuild {first : Option Batch} {probeSchema : Option Schema}
    {filled result : Except JoinError JoinKeys} {build : B} {l : Loading}
    (h : op.fillBuild first probeSchema = (filled, op'))
    (hrun : op.loading.fill op.config probeSchema first op.build = (result, build, l)) :
    result = filled ∧ op'.side = l.side := by
  unfold loading at hrun
  simp only [fillBuild, hrun] at h
  cases h
  exact ⟨rfl, rfl⟩

omit [BatchSource P] [BatchSource B] in
theorem loading_of_empty (h : op.side = .empty) :
    op.loading = ⟨none, .empty, .empty, op.budget, op.metrics⟩ := by
  rw [loading, h]
  rfl

/-- Between two build batches the build side is aligned. -/
theorem aligned_of_boundary (hempty : op.side = .empty) (h : op.AtBoundary taken l) :
    l.side.Aligned (l.table.map Prod.snd) taken := by
  cases h with
  | @opened _ op₁ hprobe =>
    have hside := (side_pullProbe hprobe).1.trans hempty
    rw [loading_of_empty hside]
    have hnone : Loading.Took ⟨none, .empty, .empty, op₁.budget, op₁.metrics⟩ op₁.config none [] :=
      Loading.took_nil op₁.budget op₁.metrics
    exact Loading.aligned_of_took hnone (Loading.placed_nil _ _)
  | behind hprobe hbuild hfirst hreached =>
    have hside := (side_pullBuild hbuild).1.trans ((side_pullProbe hprobe).1.trans hempty)
    rw [loading_of_empty hside] at hfirst
    obtain ⟨htook₁, hplaced₁⟩ := Loading.placed_acceptFirst hfirst
    obtain ⟨htook, hplaced⟩ := Loading.placed_of_reached htook₁ hplaced₁ hreached
    exact Loading.aligned_of_took htook hplaced

/-- The build side of an operator whose output is on its way is aligned with all batches that the build
source had, and by the keys that rows are probed with. -/
def Filled (op : Operator P B) (build : B) (p : Probe) : Prop :=
  ∃ taken final, Loads build taken none final ∧ op.side.Aligned (some p.plan.keys) taken

/-- When the build side has been filled, output is on its way, or there is none. -/
theorem filled_of_startProbing {keys : JoinKeys} {first : Option Batch} {probeSchema : Option Schema}
    (h : op.startProbing keys first probeSchema = (.ok (), op')) :
    op'.stage = .done ∨ op'.side = op.side ∧ ∃ p, op'.stage = .probing p ∧ p.plan.keys = keys := by
  simp only [startProbing, skipOutput] at h
  split at h
  · split at h
    · cases h
    · cases h
      exact .inl (stage_finish _)
  · cases h
    exact .inr ⟨rfl, _, rfl, rfl⟩

/-- The first pull ends the join, or fills the build side. -/
theorem filled_of_start (hempty : op.side = .empty) (h : op.start = (.ok (), op')) :
    op'.stage = .done ∨ ∃ p, op'.stage = .probing p ∧ op'.Filled op.build p := by
  cases starts_of_start h with
  | @filled keys first buildFirst op₁ op₂ op₃ _ _ hprobe hbuild hfill hbegin =>
    obtain ⟨hside₁, hbuild₁⟩ := side_pullProbe hprobe
    obtain ⟨hside₂, hpull⟩ := side_pullBuild hbuild
    obtain ⟨rest, ending, final, hdelivers⟩ := exists_delivers .build op₂.build
    have hbare := loading_of_empty (hside₂.trans (hside₁.trans hempty))
    rcases hrun : op₂.loading.fill op₂.config ((first.map Batch.schema).or (schema? op₁.probe))
      buildFirst op₂.build with ⟨result, build, l⟩
    have hresult := side_fillBuild hfill hrun
    rw [hbare, hresult.1] at hrun
    obtain ⟨rfl, haligned⟩ := Loading.aligned_of_fill hdelivers hrun
    rcases filled_of_startProbing hbegin with hdone | ⟨hside, p, hstage, hkeys⟩
    · exact .inl hdone
    · refine .inr ⟨p, hstage, _, final, .pulled (by rw [← hbuild₁]; exact hpull) hdelivers, ?_⟩
      rw [hside, hresult.2, hkeys]
      exact haligned

/-! ### Calls -/

/-- What an operator keeps between calls: nothing of the build side before its first pull, and all of it
as long as output is on its way. -/
structure Keeps (build : B) (op : Operator P B) : Prop where
  /-- Before the first pull there is nothing. -/
  unstarted : op.stage = .unstarted → op.side = .empty ∧ op.build = build
  /-- Later on the build side is filled. -/
  probing : ∀ p, op.stage = .probing p → op.Filled build p

variable {build : B}

omit [BatchSource P] in
theorem keeps_of_terminal (h : op.stage.isTerminal = true) : op.Keeps build := by
  refine ⟨?_, ?_⟩
  · intro hstage
    rw [hstage] at h
    cases h
  · intro p hstage
    rw [hstage] at h
    cases h

/-- An output batch marks slots, and keeps the rest of the build side. -/
theorem keeps_pullOutput {p : Probe} (h : op.Filled build p) : (op.pullOutput p).2.Keeps build := by
  rcases hrun : p.nextOutput op.side.table op.side.store op.side.ledger op.probe op.metrics with
    ⟨result, q, ledger, source, metrics⟩
  rw [pullOutput_eq hrun]
  cases result with
  | error e => exact keeps_of_terminal (by rw [deliver, stage_fail]; rfl)
  | ok batch =>
    cases batch with
    | none => exact keeps_of_terminal (by rw [deliver, stage_finish]; rfl)
    | some batch =>
      refine ⟨?_, ?_⟩
      · intro hstage
        cases hstage
      · intro p' hstage
        obtain rfl : q = p' := Stage.probing.inj hstage
        obtain ⟨taken, final, hloads, haligned⟩ := h
        refine ⟨taken, final, hloads, ?_⟩
        rw [Probe.plan_nextOutput hrun]
        exact haligned.congr (Probe.marked_nextOutput hrun).links_eq

theorem keeps_next (h : op.Keeps build) : op.next.2.Keeps build := by
  cases hstage : op.stage with
  | done => exact keeps_of_terminal (by simp [next, hstage, Stage.isTerminal])
  | failed => exact keeps_of_terminal (by simp [next, hstage, Stage.isTerminal])
  | probing p =>
    rw [next_of_probing hstage]
    exact keeps_pullOutput (h.probing p hstage)
  | unstarted =>
    obtain ⟨hempty, hbuild⟩ := h.unstarted hstage
    rcases hstart : op.start with ⟨_ | _, op'⟩
    · rw [next_of_failed_start hstage hstart]
      exact keeps_of_terminal (by rw [stage_fail]; rfl)
    · rw [next_of_start hstage hstart]
      rcases filled_of_start hempty hstart with hdone | ⟨p, hprobing, hfilled⟩
      · rw [showFirst, hdone]
        exact keeps_of_terminal (by rw [hdone]; rfl)
      · rw [showFirst, hprobing]
        rw [hbuild] at hfilled
        exact keeps_pullOutput hfilled

/-- Calls keep the build side as it is, as long as output is on its way. -/
theorem keeps_perform (call : Call) (h : op.Keeps build) : (op.perform call).Keeps build := by
  cases call with
  | next => exact keeps_next h
  | takeBatch => exact ⟨h.unstarted, h.probing⟩
  | takeFailure => exact ⟨h.unstarted, h.probing⟩
  | kill propagate => exact keeps_of_terminal (isTerminal_kill op propagate)
  | close => exact keeps_of_terminal (isTerminal_close op)

theorem keeps_run (config : Config) (probe : P) (build : B) (calls : List Call) :
    ((ofSources config probe build).run calls).Keeps build := by
  apply run_induction calls
  · refine ⟨fun _ => ⟨rfl, rfl⟩, ?_⟩
    intro p hstage
    cases hstage
  · intro op call h
    exact keeps_perform call h

/-- **The build side is aligned in all states of a run.** Between two build batches of the first pull
the three parts agree on the rows of the batches taken so far, with the hashes of the keys of the table;
and between two calls, as long as output is on its way, on all rows that the build source had, with the
hashes of the keys that rows are probed with. -/
theorem aligned_of_run (config : Config) (probe : P) (build : B) (calls : List Call) :
    let op := (ofSources config probe build).run calls
    (op.stage = .unstarted → ∀ taken l, op.AtBoundary taken l →
      l.side.Aligned (l.table.map Prod.snd) taken) ∧
    ∀ p, op.stage = .probing p → ∃ taken final, Loads build taken none final ∧
      op.side.Aligned (some p.plan.keys) taken := by
  intro op
  have hkeeps : op.Keeps build := keeps_run config probe build calls
  refine ⟨?_, hkeeps.probing⟩
  intro hstage taken l hboundary
  exact aligned_of_boundary (hkeeps.unstarted hstage).1 hboundary

/-- A build source with a batch without rows and the same batch of two rows twice. Behind the first output
batch the four rows have four slots, though they are equal by pairs. -/
theorem aligned_of_run_twice :
    let column (cells : List Bool) (values : Array Int) : Column :=
      .fixed (.scalar "k" (.int .bits64) true) (.ofList cells) ⟨.ints .bits64 values, 32⟩
    let blank : Batch := ⟨0, 0, [column [] #[]], none⟩
    let pair : Batch := ⟨2, 2, [column [true, false] #[7, 0]], none⟩
    let config : Config :=
      { Config.ofConditions .full [⟨"k", "k", .equals⟩] with minBuckets := 1, batchRows := 2 }
    let probe : Script := .ofSteps "probe" [] (some pair.schema)
    let build : Script := .ofSteps "build" [.batch blank, .batch pair, .notYet, .batch pair] none
    let op := (ofSources config probe build).run [.next]
    op.side.ledger.links.toList.map RowRef.place = [(0, 0), (0, 1), (1, 0), (1, 1)] ∧
      ∃ p taken, op.stage = .probing p ∧ op.side.Aligned (some p.plan.keys) taken := by
  intro column blank pair config probe build op
  have hplaces : op.side.ledger.links.toList.map RowRef.place = [(0, 0), (0, 1), (1, 0), (1, 1)] := by
    decide +kernel
  have hstage : op.stage.isProbing = true := by decide +kernel
  obtain ⟨p, hprobing⟩ := Stage.exists_of_isProbing hstage
  obtain ⟨taken, -, -, haligned⟩ := (aligned_of_run config probe build [.next]).2 p hprobing
  exact ⟨hplaces, p, taken, hprobing, haligned⟩

end Operator
end HashJoin
