import HashJoin.Proofs.Probe.Bound
import HashJoin.Proofs.Run.Alignment
import HashJoin.Proofs.Run.Standing

/-!
# Operators as sources

An operator is a source itself, and so can be an input of another one. It bounds its pulls by the rows that
it can still show: each batch has a row, so every batch lowers that bound. Over measured sources an operator
is measured, and over reliable ones it is reliable. What is said of joins of such sources then holds of
trees of joins, and in such a tree no bound ever cuts a stream off.

## Main definitions

* `Operator.Metered` — what an operator over measured sources keeps between calls.
* `Operator.Lowers` — a pull that ends the run, or lowers a bound by the rows that it shows.

## Main results

* `reaches_cases` — whatever is done to an operator as a source, it has ended, or comes from calls.
* `lowers_pullOutput`, `lowers_next` — a batch that is shown lowers the bound by its rows.
* `measured_ofSources`, `reliable_ofSources` — **operators are measured and reliable if their inputs are.**
-/

namespace HashJoin
namespace Operator

open BatchSource

variable {P B : Type} [BatchSource P] [BatchSource B] {op op' : Operator P B} {config : Config}
  {probe : P} {build : B}

/-! ### Calls of a source -/

theorem isTerminal_next (h : op.stage.isTerminal = true) : op.next.2.stage.isTerminal = true := by
  rw [next_of_terminal h]
  exact h

/-- Whatever is done to an operator as a source, it has ended, or comes from calls. -/
theorem reaches_cases {start t : Operator P B} (h : Reaches start t) :
    t.stage.isTerminal = true ∨ ∃ calls, t = start.run calls := by
  have hmore : ∀ {t : Operator P B} (call : Call), (∃ calls, t = start.run calls) →
      ∃ calls, t.perform call = start.run calls := by
    rintro t call ⟨calls, rfl⟩
    refine ⟨calls ++ [call], ?_⟩
    rw [run, run, List.foldl_append]
    rfl
  induction h with
  | refl => exact .inr ⟨[], rfl⟩
  | next _ ih => exact ih.imp isTerminal_next (hmore .next)
  | takeBatch _ ih => exact ih.imp id (hmore .takeBatch)
  | takeFailure _ ih => exact ih.imp id (hmore .takeFailure)
  | kill propagate _ _ => exact .inl (isTerminal_kill _ propagate)
  | dispose _ _ => exact .inl (isTerminal_close _)

/-- An operator that has ended shows no more batches. -/
theorem not_batch_of_terminal (h : op.stage.isTerminal = true) :
    ¬(op.next.1 = .batch ∨ op.next.1 = .newSchema) := by
  rw [next_of_terminal h]
  split <;> simp

/-! ### The bound of an operator -/

/-- What an operator over measured sources keeps between calls. -/
structure Metered (build : B) (op : Operator P B) : Prop extends Keeps build op where
  /-- The probe source stays measured as long as it may be pulled. -/
  probe : op.stage.isTerminal = false → Measured op.probe

theorem metered_of_terminal (h : op.stage.isTerminal = true) : op.Metered build := by
  refine ⟨keeps_of_terminal h, fun hstage => ?_⟩
  rw [h] at hstage
  cases hstage

omit [BatchSource B] in
theorem pull_of_pullProbe {first : Except JoinError (Option Batch)} (h : op.pullProbe = (first, op')) :
    pull .probe op.probe = (first, op'.probe) := by
  cases h
  rfl

omit [BatchSource P] in
theorem probe_pullBuild {first : Except JoinError (Option Batch)} (h : op.pullBuild = (first, op')) :
    op'.probe = op.probe := by
  cases h
  rfl

omit [BatchSource P] in
theorem probe_fillBuild {first : Option Batch} {probeSchema : Option Schema}
    {keys : Except JoinError JoinKeys} (h : op.fillBuild first probeSchema = (keys, op')) :
    op'.probe = op.probe := by
  simp only [fillBuild] at h
  cases h
  rfl

/-- The output begins in front of the batch that was pulled in advance. -/
theorem rowsLeft_of_startProbing {keys : JoinKeys} {first : Option Batch} {probeSchema : Option Schema}
    {p : Probe} (h : op.startProbing keys first probeSchema = (.ok (), op'))
    (hstage : op'.stage = .probing p) : op'.probe = op.probe ∧ ∀ buildRows,
      p.rowsLeft (BatchSource.rowsLeft op.probe) buildRows =
        (rowsOf first + BatchSource.rowsLeft op.probe) * (buildRows + 1) + buildRows := by
  simp only [startProbing, skipOutput] at h
  split at h
  -- a join without output is not probing
  · split at h
    · cases h
    · cases h
      rw [stage_finish] at hstage
      cases hstage
  · cases h
    cases hstage
    refine ⟨rfl, fun buildRows => ?_⟩
    rw [Probe.rowsLeft_of_probing rfl]
    exact congrArg (· + buildRows) (Nat.zero_add _)

/-- What the first pull leaves to be shown is within the bound: each probe row can match each build row,
and there are no more rows than the sources say. -/
theorem rowsLeft_of_start {p : Probe} (hempty : op.side = .empty) (hprobe : Measured op.probe)
    (hbuild : Measured op.build) (h : op.start = (.ok (), op')) (hstage : op'.stage = .probing p) :
    op'.Filled op.build p ∧ Measured op'.probe ∧
      p.rowsLeft (BatchSource.rowsLeft op'.probe) op'.side.store.rowCount ≤
        BatchSource.rowsLeft op.probe * (BatchSource.rowsLeft op.build + 1) +
          BatchSource.rowsLeft op.build := by
  have hfilled : op'.Filled op.build p := by
    rcases filled_of_start hempty h with hdone | ⟨q, hq, hfilled⟩
    · rw [hdone] at hstage
      cases hstage
    · cases hq.symm.trans hstage
      exact hfilled
  have hbuildRows : op'.side.store.rowCount ≤ BatchSource.rowsLeft op.build := by
    obtain ⟨taken, final, hloads, haligned⟩ := hfilled
    rw [haligned.rowCount]
    exact rowsLeft_of_loads hbuild hloads
  cases starts_of_start h with
  | @filled keys first _ op₁ op₂ op₃ _ _ hpull hpullBuild hfill hbegin =>
    obtain ⟨hmeasured, hrows⟩ := measured_of_pull hprobe (pull_of_pullProbe hpull)
    have hprobeRows := hrows first rfl
    obtain ⟨hsame, hbound⟩ := rowsLeft_of_startProbing hbegin hstage
    have hkept : op₃.probe = op₁.probe := (probe_fillBuild hfill).trans (probe_pullBuild hpullBuild)
    rw [hsame, hkept]
    refine ⟨hfilled, hmeasured, ?_⟩
    rw [hkept] at hbound
    rw [hbound]
    exact Nat.add_le_add
      (Nat.mul_le_mul (by omega) (Nat.succ_le_succ hbuildRows)) hbuildRows

/-! ### Pulls -/

/-- A pull ends the run, or shows a batch and lowers a bound by its rows, and by one at least. -/
inductive Lowers (build : B) (bound : Nat) (pulled : Pulled × Operator P B) : Prop
  /-- The run is over. -/
  | finished (hreport : pulled.1 = .ended ∨ pulled.1 = .failed)
      (hstage : pulled.2.stage.isTerminal = true)
  /-- There is a batch. -/
  | batch (b : Batch) (hreport : pulled.1 = .batch ∨ pulled.1 = .newSchema)
      (hcurrent : pulled.2.current = some b) (hmetered : pulled.2.Metered build)
      (hless : pulled.2.rowsLeft < bound) (hrows : pulled.2.rowsLeft + b.rowCount ≤ bound)

theorem Lowers.mono {bound total : Nat} {pulled : Pulled × Operator P B}
    (h : Lowers build bound pulled) (hle : bound ≤ total) : Lowers build total pulled := by
  cases h with
  | finished hreport hstage => exact .finished hreport hstage
  | batch b hreport hcurrent hmetered hless hrows =>
    exact .batch b hreport hcurrent hmetered (Nat.lt_of_lt_of_le hless hle) (Nat.le_trans hrows hle)

/-- An output batch lowers the bound of the probe. -/
theorem lowers_pullOutput {p : Probe} (hfilled : op.Filled build p) (hprobe : Measured op.probe) :
    Lowers build (p.rowsLeft (BatchSource.rowsLeft op.probe) op.side.store.rowCount)
      (op.pullOutput p) := by
  have hkeeps := keeps_pullOutput hfilled
  have hlinked : op.side.ledger.length ≤ op.side.store.rowCount := by
    obtain ⟨taken, final, -, haligned⟩ := hfilled
    exact Nat.le_of_eq (haligned.ledger.trans haligned.rowCount.symm)
  rcases hrun : p.nextOutput op.side.table op.side.store op.side.ledger op.probe op.metrics with
    ⟨result, q, ledger, source, metrics⟩
  rw [pullOutput_eq hrun] at hkeeps ⊢
  cases result with
  | error e => exact .finished (.inr rfl) (by rw [deliver, stage_fail]; rfl)
  | ok made =>
    cases made with
    | none => exact .finished (.inl rfl) (by rw [deliver, stage_finish]; rfl)
    | some b =>
      obtain ⟨hmeasured, hless, hrows⟩ := Probe.rowsLeft_nextOutput hprobe hlinked hrun
      refine .batch b ?_ rfl ⟨hkeeps, fun _ => hmeasured⟩ hless hrows
      show (if op.announced then Pulled.batch else .newSchema) = .batch ∨
        (if op.announced then Pulled.batch else .newSchema) = .newSchema
      cases op.announced with
      | true => exact .inl rfl
      | false => exact .inr rfl

/-- A pull lowers the bound of the operator. -/
theorem lowers_next (hbuild : Measured build) (h : op.Metered build) :
    Lowers build op.rowsLeft op.next := by
  cases hstage : op.stage with
  | done =>
    have hover : op.next = (.ended, op) := by rw [next, hstage]
    rw [hover]
    exact .finished (.inl rfl) (by rw [hstage]; rfl)
  | failed =>
    have hover : op.next = (.failed, op) := by rw [next, hstage]
    rw [hover]
    exact .finished (.inr rfl) (by rw [hstage]; rfl)
  | probing p =>
    have hbound : op.rowsLeft = p.rowsLeft (BatchSource.rowsLeft op.probe) op.side.store.rowCount := by
      rw [rowsLeft, hstage]
    have hfilled : Filled { op with current := none } build p := h.probing p hstage
    rw [next_of_probing hstage, hbound]
    exact lowers_pullOutput hfilled (h.probe (by rw [hstage]; rfl))
  | unstarted =>
    obtain ⟨hempty, rfl⟩ := h.unstarted hstage
    rcases hstart : op.start with ⟨_ | ⟨⟨⟩⟩, op'⟩
    · rw [next_of_failed_start hstage hstart]
      exact .finished (.inr rfl) (by rw [stage_fail]; rfl)
    rw [next_of_start hstage hstart]
    rcases filled_of_start hempty hstart with hdone | ⟨p, hprobing, -⟩
    · rw [showFirst, hdone]
      exact .finished (.inl rfl) (by rw [hdone]; rfl)
    -- the first output batch comes off what the start leaves to be shown
    · obtain ⟨hfilled, hmeasured, hbound⟩ :=
        rowsLeft_of_start hempty (h.probe (by rw [hstage]; rfl)) hbuild hstart hprobing
      rw [showFirst, hprobing, rowsLeft, hstage]
      exact (lowers_pullOutput hfilled hmeasured).mono hbound

/-! ### Runs -/

theorem metered_perform (hbuild : Measured build) (call : Call) (h : op.Metered build) :
    (op.perform call).Metered build := by
  cases call with
  | next =>
    cases lowers_next hbuild h with
    | finished _ hstage => exact metered_of_terminal hstage
    | batch _ _ _ hmetered => exact hmetered
  | takeBatch => exact ⟨⟨h.unstarted, h.probing⟩, h.probe⟩
  | takeFailure => exact ⟨⟨h.unstarted, h.probing⟩, h.probe⟩
  | kill propagate => exact metered_of_terminal (isTerminal_kill op propagate)
  | close => exact metered_of_terminal (isTerminal_close op)

theorem metered_run (config : Config) (hprobe : Measured probe) (hbuild : Measured build)
    (calls : List Call) : ((ofSources config probe build).run calls).Metered build := by
  apply run_induction calls
  · refine ⟨⟨fun _ => ⟨rfl, rfl⟩, ?_⟩, fun _ => hprobe⟩
    intro p hstage
    cases hstage
  · intro op call h
    exact metered_perform hbuild call h

/-- **An operator over measured sources is measured.** Each batch that it shows lowers its bound by the
rows of the batch, and by one at least. -/
theorem measured_ofSources (config : Config) (hprobe : Measured probe) (hbuild : Measured build) :
    Measured (ofSources config probe build) := by
  have hlowers : ∀ t, Reaches (ofSources config probe build) t → Lowers build t.rowsLeft t.next := by
    intro t ht
    rcases reaches_cases ht with hstage | ⟨calls, rfl⟩
    · exact lowers_next hbuild (metered_of_terminal hstage)
    · exact lowers_next hbuild (metered_run config hprobe hbuild calls)
  refine ⟨?_, ?_, ?_⟩
  · intro t ht hreport b u htake
    change t.next.1 = .batch ∨ t.next.1 = .newSchema at hreport
    obtain ⟨hcurrent, rfl⟩ := Prod.mk.inj htake
    cases hlowers t ht with
    | finished hover _ =>
      rcases hreport with hreport | hreport <;> rcases hover with hover | hover <;>
        cases hreport.symm.trans hover
    | batch b' _ hcurrent' _ hless hrows =>
      obtain rfl : b' = b := Option.some.inj (hcurrent'.symm.trans hcurrent)
      exact ⟨hless, hrows⟩
  · intro t ht hreport
    change t.next.1 = .notYet at hreport
    cases hlowers t ht with
    | finished hover _ => rcases hover with hover | hover <;> cases hreport.symm.trans hover
    | batch _ hbatch => rcases hbatch with hbatch | hbatch <;> cases hreport.symm.trans hbatch
  · intro t ht hreport
    change t.next.1 = .ended at hreport
    cases hlowers t ht with
    | finished _ hstage =>
      have hzero : t.next.2.rowsLeft = 0 := by
        unfold rowsLeft
        cases hnext : t.next.2.stage with
        | done | failed => rfl
        | unstarted | probing =>
          rw [hnext] at hstage
          cases hstage
      exact Nat.le_trans (Nat.le_of_eq hzero) (Nat.zero_le _)
    | batch _ hbatch => rcases hbatch with hbatch | hbatch <;> cases hreport.symm.trans hbatch

/-- **An operator over reliable sources is reliable.** -/
theorem reliable_ofSources (hvalid : config.fault? = none) (hprobe : Reliable probe)
    (hbuild : Reliable build) : Reliable (ofSources config probe build) := by
  refine ⟨fun t ht hreport => ?_⟩
  change t.next.1 = .batch ∨ t.next.1 = .newSchema at hreport
  show ∃ b, t.next.2.current = some b ∧ HasColumns b
  rcases reaches_cases ht with hstage | ⟨calls, rfl⟩
  · exact absurd hreport (not_batch_of_terminal hstage)
  · have hstanding := (standing_run (create?_eq_ok_iff.mpr ⟨hvalid, rfl⟩) hprobe hbuild calls).2
    cases answers_of_standing hvalid hprobe hbuild hstanding with
    | batch b _ hcurrent _ _ hshows => exact ⟨b, hcurrent, hshows.wellFormed.columns⟩
    | ended hended =>
      rw [hended] at hreport
      simp at hreport
    | failed hfailed =>
      rw [hfailed] at hreport
      simp at hreport
    | finished hstage => exact absurd hreport (not_batch_of_terminal hstage)

end Operator
end HashJoin
