import HashJoin.Proofs.Metrics.Counting
import HashJoin.Proofs.Probe.Ledger
import HashJoin.Proofs.Probe.Output

/-!
# What probing counts

A probe batch is counted when it is admitted: when the next batch with rows is asked for and can be
probed with. An output batch may admit several, in the middle of its rows, and none if it goes on with
a batch that was admitted before. Whether it is made or fails, its counters are those before, and one
count more for each batch that it has admitted; and behind all output batches so far the admitted
batches are the first of those that the supply has given out.

## Main definitions

* `Probe.inputAdmissions`, `Probe.admissions` — the batches that an output batch admits.
* `Probe.Midway` — probing has admitted some batches of a stream, and the supply awaits the others.

## Main results

* `admitted_probeInput` — the stage of the probe rows.
* `admitted_nextOutput` — **an output batch counts the batches that it admits.**
-/

namespace HashJoin

/-! ### The stage -/

namespace ProbeFrame

variable {f : ProbeFrame} {cursor cursor' : Cursor} {out out' : Emission}
  {result : Except JoinError Unit}

theorem phase_completeRow (h : f.completeRow cursor out = (result, cursor', out')) :
    cursor'.phase = cursor.phase := by
  simp only [completeRow] at h
  split at h
  · split at h
    · cases h
      rfl
    · split at h <;> (cases h; rfl)
  · cases h
    rfl

theorem phase_beginRow (f : ProbeFrame) (cursor : Cursor) :
    (f.beginRow cursor).phase = cursor.phase := by
  unfold beginRow
  split <;> rfl

theorem phase_continueRow (h : f.continueRow cursor out = (result, cursor', out')) :
    cursor'.phase = cursor.phase := by
  simp only [continueRow] at h
  split at h
  · exact phase_completeRow h
  · exact phase_completeRow h
  · split at h
    · split at h <;> (cases h; rfl)
    · split at h
      · cases h
        rfl
      · rw [phase_completeRow h]
      · cases h
        rfl

/-- Walking the rows of a batch does not change the stage. -/
theorem phase_probeRows (h : f.probeRows cursor out = (result, cursor', out')) :
    cursor'.phase = cursor.phase := by
  fun_induction probeRows f cursor out with
  | case1 cursor out _ e cursor₁ out₁ hrow =>
    cases h
    exact (phase_continueRow hrow).trans (phase_beginRow f cursor)
  | case2 cursor out _ reached out₁ hrow _ ih =>
    exact (ih h).trans ((phase_continueRow hrow).trans (phase_beginRow f cursor))
  | case3 cursor out _ reached out₁ hrow _ =>
    cases h
    exact (phase_continueRow hrow).trans (phase_beginRow f cursor)
  | case4 =>
    cases h
    rfl

end ProbeFrame

namespace Probe

variable {σ : Type} [BatchSource σ] {table : Option SlotTable} {store : BuildStore} {p q : Probe}
  {source source' : σ} {metrics metrics' : Metrics} {out out' : Emission}
  {result : Except JoinError Unit}

theorem phase_probeCurrent (h : probeCurrent table store p out = (result, q, out')) :
    q.cursor.phase = p.cursor.phase := by
  simp only [probeCurrent] at h
  split at h
  · cases h
    rfl
  · cases h
    exact ProbeFrame.phase_probeRows rfl

/-! ### Admissions -/

/-- The batches that are admitted while the probe rows are worked on. -/
def inputAdmissions (table : Option SlotTable) (store : BuildStore) (p : Probe) (source : σ)
    (metrics : Metrics) (out : Emission) : List Batch :=
  match worked : probeCurrent table store p out with
  | (.error _, _, _) => []
  | (.ok (), q, out) =>
    if q.plan.batchRows ≤ out.writer.rows then []
    else match fetched : q.supply.nextBatch source metrics with
      | (.error _, _, _, _) => []
      | (.ok none, _, _, _) => []
      | (.ok (some batch), supply, source', metrics) =>
        have : supply.batchesLeft source' < p.supply.batchesLeft source := by
          rw [← supply_of_probeCurrent worked]
          exact Supply.batchesLeft_of_nextBatch fetched
        let next : Probe := ⟨q.plan, supply, some batch, q.cursor.enterBatch⟩
        batch :: next.inputAdmissions table store source' metrics out
  termination_by p.supply.batchesLeft source

/-- The batches that are admitted in the stage of the probe rows, unless that stage is over. -/
def stageAdmissions (table : Option SlotTable) (store : BuildStore) (p : Probe) (source : σ)
    (metrics : Metrics) (out : Emission) : List Batch :=
  match p.cursor.phase with
  | .probing => p.inputAdmissions table store source metrics out
  | .unmatched _ | .done => []

/-- The batches that an output batch admits. -/
def admissions (table : Option SlotTable) (store : BuildStore) (ledger : MatchLedger) (p : Probe)
    (source : σ) (metrics : Metrics) : List Batch :=
  if p.plan.batchRows = 0 then []
  else p.stageAdmissions table store source metrics ⟨.ofSchema p.plan.output, ledger⟩

/-- What the work on the probe rows admits first. -/
theorem inputAdmissions_eq (table : Option SlotTable) (store : BuildStore) (p : Probe) (source : σ)
    (metrics : Metrics) (out : Emission) :
    p.inputAdmissions table store source metrics out =
      match probeCurrent table store p out with
      | (.error _, _, _) => []
      | (.ok (), q, out) =>
        if q.plan.batchRows ≤ out.writer.rows then []
        else match q.supply.nextBatch source metrics with
          | (.error _, _, _, _) => []
          | (.ok none, _, _, _) => []
          | (.ok (some batch), supply, source, metrics) =>
            batch :: inputAdmissions table store ⟨q.plan, supply, some batch, q.cursor.enterBatch⟩
              source metrics out := by
  rw [inputAdmissions]
  split
  · next hworked => rw [hworked]
  · next hworked =>
    simp only [hworked]
    split
    · rfl
    · split
      · next hfetch => rw [hfetch]
      · next hfetch => rw [hfetch]
      · next hfetch => rw [hfetch]

/-! ### The probe rows -/

variable {batches usable admitted : List Batch} {ending : Option JoinError}

/-- Probing has admitted the first batches of a stream, and the supply awaits the others. Behind the
stage of the probe rows there are no others, and the stream has come to its end. -/
structure Midway (p : Probe) (source : σ) (usable : List Batch) (ending : Option JoinError)
    (admitted : List Batch) : Prop where
  /-- The batches still to come. -/
  rest : ∃ rest, usable = admitted ++ rowBatches rest ∧ p.supply.Awaits source rest ending ∧
    (p.cursor.phase ≠ .probing → rowBatches rest = [] ∧ ending = none)

theorem Midway.isPrefix (h : p.Midway source usable ending admitted) : admitted <+: usable := by
  obtain ⟨rest, hsplit, -⟩ := h.rest
  exact ⟨rowBatches rest, hsplit.symm⟩

/-- Behind the stage of the probe rows the whole stream has been admitted. -/
theorem Midway.whole (h : p.Midway source usable ending admitted) (hphase : p.cursor.phase ≠ .probing) :
    admitted = usable ∧ ending = none := by
  obtain ⟨rest, hsplit, -, hover⟩ := h.rest
  obtain ⟨hnone, hending⟩ := hover hphase
  rw [hsplit, hnone, List.append_nil]
  exact ⟨rfl, hending⟩

theorem Midway.congr (h : p.Midway source usable ending admitted) (hsupply : q.supply = p.supply)
    (hphase : p.cursor.phase = .probing → q.cursor.phase = .probing) :
    q.Midway source usable ending admitted := by
  obtain ⟨rest, hsplit, hawaits, hover⟩ := h.rest
  exact ⟨⟨rest, hsplit, hsupply ▸ hawaits, fun hq => hover (mt hphase hq)⟩⟩

/-- The work on the probe rows counts the batches that it admits, also when it fails. Otherwise it ends
because the output batch is full, or its stage is over. -/
theorem admitted_probeInput (h : p.supply.Awaits source batches ending)
    (hphase : p.cursor.phase = .probing)
    (hrun : p.probeInput table store source metrics out = (result, q, source', metrics', out')) :
    metrics' = metrics.recordProbes (p.inputAdmissions table store source metrics out) ∧
      p.inputAdmissions table store source metrics out <+: rowBatches batches ∧
      (result = .ok () → q.Midway source' (rowBatches batches) ending
          (p.inputAdmissions table store source metrics out) ∧
        (q.cursor.phase = .probing → q.plan.batchRows ≤ out'.writer.rows)) := by
  rw [inputAdmissions_eq]
  -- on the batches as they are entered
  fun_induction probeInput table store p source metrics out generalizing batches with
  | case1 p source metrics out e p₁ out₁ hworked =>
    cases hrun
    simp only [hworked]
    refine ⟨rfl, List.nil_prefix, ?_⟩
    intro hok
    cases hok
  | case2 p source metrics out p₁ out₁ hworked hfull =>
    cases hrun
    simp only [hworked, if_pos hfull]
    refine ⟨rfl, List.nil_prefix, fun _ => ⟨⟨batches, rfl, ?_, ?_⟩, fun _ => hfull⟩⟩
    · rw [supply_of_probeCurrent hworked]
      exact h
    · intro hover
      exact absurd ((phase_probeCurrent hworked).trans hphase) hover
  | case3 p source metrics out p₁ out₁ hworked hroom e supply source₁ metrics₁ hfetch =>
    cases hrun
    simp only [hworked, if_neg hroom, hfetch]
    rw [supply_of_probeCurrent hworked] at hfetch
    obtain ⟨-, -, rfl, -⟩ | ⟨_, _, ⟨⟩, -⟩ := Supply.admits_of_awaits h hfetch
    refine ⟨rfl, List.nil_prefix, ?_⟩
    intro hok
    cases hok
  | case4 p source metrics out p₁ out₁ hworked hroom supply source₁ metrics₁ hfetch =>
    cases hrun
    simp only [hworked, if_neg hroom, hfetch]
    rw [supply_of_probeCurrent hworked] at hfetch
    obtain ⟨hended, hnone, rfl, hawaits⟩ | ⟨_, _, ⟨⟩, -⟩ := Supply.admits_of_awaits h hfetch
    -- the supply has nothing more to give out
    have hending : ending = none := by
      cases ending with
      | none => rfl
      | some e => cases hended
    subst hending
    refine ⟨rfl, List.nil_prefix, fun _ => ⟨⟨[], hnone, hawaits rfl, fun _ => ⟨rfl, rfl⟩⟩, ?_⟩⟩
    intro hprobing
    exact absurd hprobing (afterInput_ne _)
  | case5 p source metrics out p₁ out₁ hworked hroom b supply source₁ metrics₁ hfetch =>
    rename_i _ entered ih
    simp only [hworked, if_neg hroom, hfetch]
    rw [supply_of_probeCurrent hworked] at hfetch
    obtain ⟨hended, -⟩ | ⟨_, rest, hsome, -, -, hsplit, rfl, -, hawaits⟩ :=
      Supply.admits_of_awaits h hfetch
    · cases ending <;> cases hended
    cases hsome
    -- the batch is counted, and the work goes on with the others
    obtain ⟨hmetrics, hprefix, hmidway⟩ :=
      ih hawaits ((phase_probeCurrent hworked).trans hphase) hrun
    rw [← inputAdmissions_eq] at hmetrics hprefix hmidway
    rw [hsplit]
    refine ⟨hmetrics, (List.prefix_cons_inj b).mpr hprefix, ?_⟩
    intro hok
    obtain ⟨⟨left, hleft, hmore⟩, hfull⟩ := hmidway hok
    exact ⟨⟨left, congrArg (b :: ·) hleft, hmore⟩, hfull⟩

/-- So does the stage of the probe rows, which may be over. -/
theorem admitted_probeStage (h : p.Midway source usable ending admitted)
    (hrun : p.probeStage table store source metrics out = (result, q, source', metrics', out')) :
    metrics' = metrics.recordProbes (p.stageAdmissions table store source metrics out) ∧
      admitted ++ p.stageAdmissions table store source metrics out <+: usable ∧
      (result = .ok () → q.Midway source' usable ending
          (admitted ++ p.stageAdmissions table store source metrics out) ∧
        (q.cursor.phase = .probing → q.plan.batchRows ≤ out'.writer.rows)) := by
  unfold probeStage at hrun
  unfold stageAdmissions
  have hover : p.cursor.phase ≠ .probing →
      (.ok (), p, source, metrics, out) = (result, q, source', metrics', out') →
      metrics' = metrics.recordProbes [] ∧ admitted ++ [] <+: usable ∧ (result = .ok () →
        q.Midway source' usable ending (admitted ++ []) ∧
          (q.cursor.phase = .probing → q.plan.batchRows ≤ out'.writer.rows)) := by
    intro hphase hrun
    cases hrun
    rw [List.append_nil]
    exact ⟨rfl, h.isPrefix, fun _ => ⟨h, fun hprobing => absurd hprobing hphase⟩⟩
  cases hphase : p.cursor.phase with
  | unmatched slot =>
    rw [hphase] at hrun
    exact hover (hphase ▸ Phase.noConfusion) hrun
  | done =>
    rw [hphase] at hrun
    exact hover (hphase ▸ Phase.noConfusion) hrun
  | probing =>
    rw [hphase] at hrun
    obtain ⟨rest, hsplit, hawaits, -⟩ := h.rest
    obtain ⟨hmetrics, hprefix, hmidway⟩ := admitted_probeInput hawaits hphase hrun
    rw [hsplit]
    refine ⟨hmetrics, (List.prefix_append_right_inj _).mpr hprefix, ?_⟩
    intro hok
    obtain ⟨⟨left, hleft, hmore⟩, hfull⟩ := hmidway hok
    exact ⟨⟨left, by rw [hleft, List.append_assoc], hmore⟩, hfull⟩

/-! ### Output batches -/

omit [BatchSource σ] in
/-- The stage of the build rows does not lead back to the probe rows. -/
theorem phase_sweep {ledger : MatchLedger} {batchRows slot : Nat} {writer writer' : RowWriter}
    {phase : Phase} (h : sweep store ledger batchRows slot writer = (result, phase, writer')) :
    phase ≠ .probing := by
  fun_induction sweep store ledger batchRows slot writer with
  | case1 =>
    cases h
    exact Phase.noConfusion
  | case2 =>
    cases h
    exact Phase.noConfusion
  | case3 =>
    cases h
    exact Phase.noConfusion
  | case4 =>
    cases h
    exact Phase.noConfusion
  | case5 _ _ _ _ _ _ _ _ _ _ ih => exact ih h

/-- Filling an output batch counts what its first stage admits. If no rows are written, the probe rows
are done with. -/
theorem admitted_fill (hrows : p.plan.batchRows ≠ 0) (h : p.Midway source usable ending admitted)
    (hrun : p.fill table store source metrics out = (result, q, source', metrics', out')) :
    metrics' = metrics.recordProbes (p.stageAdmissions table store source metrics out) ∧
      admitted ++ p.stageAdmissions table store source metrics out <+: usable ∧
      (result = .ok () → q.Midway source' usable ending
          (admitted ++ p.stageAdmissions table store source metrics out) ∧
        (out'.writer.rows = 0 → q.cursor.phase ≠ .probing)) := by
  simp only [fill] at hrun
  rcases hstage : p.probeStage table store source metrics out with
    ⟨e | ⟨⟨⟩⟩, p₁, source₁, metrics₁, ⟨writer, ledger⟩⟩
  · rw [hstage] at hrun
    cases hrun
    obtain ⟨hmetrics, hprefix, -⟩ := admitted_probeStage h hstage
    refine ⟨hmetrics, hprefix, ?_⟩
    intro hok
    cases hok
  · rw [hstage] at hrun
    obtain ⟨hmetrics, hprefix, hmidway⟩ := admitted_probeStage h hstage
    obtain ⟨hmid, hfull⟩ := hmidway rfl
    -- a batch that is not full has all probe rows behind it
    have hover : writer.rows = 0 → p₁.cursor.phase ≠ .probing := by
      intro hnone hprobing
      have hle := hfull hprobing
      rw [plan_probeStage hstage, hnone] at hle
      exact hrows (Nat.eq_zero_of_le_zero hle)
    cases hphase : p₁.cursor.phase with
    | probing =>
      rw [hphase] at hrun
      cases hrun
      exact ⟨hmetrics, hprefix, fun _ => ⟨hmid, hover⟩⟩
    | done =>
      rw [hphase] at hrun
      cases hrun
      exact ⟨hmetrics, hprefix, fun _ => ⟨hmid, hover⟩⟩
    | unmatched slot =>
      rw [hphase] at hrun
      rcases hsweep : sweep store ledger p₁.plan.batchRows slot writer with ⟨swept, phase, writer₁⟩
      simp only [hsweep] at hrun
      cases hrun
      refine ⟨hmetrics, hprefix, fun _ => ⟨?_, fun _ => phase_sweep hsweep⟩⟩
      exact hmid.congr rfl fun hprobing => by rw [hphase] at hprobing; cases hprobing

/-- **An output batch counts the batches that it admits**, whether it is made or fails. They are the next
of those that the supply awaited, and when there is no output batch any more, they are the last. -/
theorem admitted_nextOutput {made : Except JoinError (Option Batch)} {ledger ledger' : MatchLedger}
    (hrows : p.plan.batchRows ≠ 0) (h : p.Midway source usable ending admitted)
    (hrun : p.nextOutput table store ledger source metrics = (made, q, ledger', source', metrics')) :
    metrics' = metrics.recordProbes (p.admissions table store ledger source metrics) ∧
      admitted ++ p.admissions table store ledger source metrics <+: usable ∧
      (made = .ok none →
        admitted ++ p.admissions table store ledger source metrics = usable ∧ ending = none) ∧
      ∀ batch, made = .ok (some batch) → q.Midway source' usable ending
        (admitted ++ p.admissions table store ledger source metrics) := by
  rw [nextOutput, if_neg hrows] at hrun
  rw [admissions, if_neg hrows]
  rcases hfill : p.fill table store source metrics ⟨.ofSchema p.plan.output, ledger⟩ with
    ⟨e | ⟨⟨⟩⟩, p₁, source₁, metrics₁, out₁⟩
  · rw [hfill] at hrun
    cases hrun
    obtain ⟨hmetrics, hprefix, -⟩ := admitted_fill hrows h hfill
    refine ⟨hmetrics, hprefix, ?_, ?_⟩
    · intro hmade
      cases hmade
    · intro batch hmade
      cases hmade
  · rw [hfill] at hrun
    cases hrun
    obtain ⟨hmetrics, hprefix, hmidway⟩ := admitted_fill hrows h hfill
    obtain ⟨hmid, hover⟩ := hmidway rfl
    refine ⟨hmetrics, hprefix, ?_, fun _ _ => hmid⟩
    intro hnone
    unfold collect at hnone
    split at hnone
    · next hwritten => exact hmid.whole (hover hwritten)
    · split at hnone <;> cases hnone

end Probe
end HashJoin
