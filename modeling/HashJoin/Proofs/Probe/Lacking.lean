import HashJoin.Proofs.Probe.Output

/-!
# Rows that lack a side

There are two places where a row is written that lacks a side, and no others. A probe row is written
without a build side when it has been compared with all build rows and none of them matched, and a build
row is written without a probe side when all probe rows are done with and none of them matched. In both
places the row is one of those that the nested loop leaves, and the writer has the columns of the output.

## Main definitions

* `ProbeFrame.ContinueLacks`, `ProbeFrame.RowsLack` — the writers that rows without a build side are
  written to, for one probe row and for all rows of a batch.
* `Probe.InputLacks`, `Probe.SweepLacks`, `Probe.OutputLacks` — those of the two stages and of an output
  batch.
* `RowWriter.Written` — a writer after some rows, among them rows that lack a side.
* `Job.Pads` — what is true of a writer that such a row is written to.

## Main results

* `written_fill` — an output batch has no other rows that lack a side.
* `pads_of_rowsLack`, `pads_of_sweepLacks` — the probe rows of a batch, and the build rows.
* `pads_of_outputLacks` — an output batch.
-/

namespace HashJoin

/-- One side of a joined row. -/
def JoinedRow.on (r : JoinedRow BatchRow BatchRow) : Side → Option BatchRow
  | .build => r.build
  | .probe => r.probe

/-- The builders of one side. -/
def RowWriter.on (w : RowWriter) : Side → List Column.Builder
  | .build => w.build
  | .probe => w.probe

/-- The columns of one side. -/
def OutputSchema.on (o : OutputSchema) : Side → List ColumnSpec
  | .build => o.buildSpecs
  | .probe => o.probeSpecs

theorem RowWriter.Holds.spec_on {w : RowWriter} {o : OutputSchema}
    {rows : List (JoinedRow BatchRow BatchRow)} (h : w.Holds o rows) (side : Side) :
    (w.on side).map Column.Builder.spec = o.on side := by
  cases side with
  | build => exact h.build.spec
  | probe => exact h.probe.spec

/-- The second writer is the first after some rows, written one by one. Rows without a build side and rows
without a probe side are written to such writers only. -/
inductive RowWriter.Written (noBuild noProbe : RowWriter → Prop) : RowWriter → RowWriter → Prop
  /-- There are no rows. -/
  | refl (w : RowWriter) : Written noBuild noProbe w w
  /-- One more row. -/
  | write {w w' w'' : RowWriter} {build probe : Option BatchRow} {result : Except FormatError Unit}
      (happend : w.append build probe = (result, w')) (hbuild : build = none → noBuild w)
      (hprobe : probe = none → noProbe w) (h : Written noBuild noProbe w' w'') :
      Written noBuild noProbe w w''

section Writing

variable {noBuild noProbe : RowWriter → Prop} {w w' w'' : RowWriter}

theorem RowWriter.Written.trans (h : Written noBuild noProbe w w') (h' : Written noBuild noProbe w' w'') :
    Written noBuild noProbe w w'' := by
  induction h with
  | refl => exact h'
  | write happend hbuild hprobe _ ih => exact .write happend hbuild hprobe (ih h')

theorem RowWriter.Written.mono {noBuild' noProbe' : RowWriter → Prop} (h : Written noBuild noProbe w w')
    (hbuild : ∀ w, noBuild w → noBuild' w) (hprobe : ∀ w, noProbe w → noProbe' w) :
    Written noBuild' noProbe' w w' := by
  induction h with
  | refl => exact .refl _
  | write happend hlacksBuild hlacksProbe _ ih =>
    exact .write happend (fun hnone => hbuild _ (hlacksBuild hnone))
      (fun hnone => hprobe _ (hlacksProbe hnone)) ih

theorem Emission.written_write {out out' : Emission} {build probe : Option BatchRow}
    {result : Except JoinError Unit} (h : out.write build probe = (result, out'))
    (hbuild : build = none → noBuild out.writer) (hprobe : probe = none → noProbe out.writer) :
    RowWriter.Written noBuild noProbe out.writer out'.writer := by
  obtain ⟨writer, ledger⟩ := out
  simp only [write] at h
  split at h
  · next happend =>
    cases h
    exact .write happend hbuild hprobe (.refl _)
  · next happend =>
    cases h
    exact .write happend hbuild hprobe (.refl _)

end Writing

/-! ### Probe rows -/

namespace ProbeFrame

/-- The row of a cursor is kept although nothing has matched it, and there is room for it. -/
structure Keeps (f : ProbeFrame) (c : Cursor) (out : Emission) : Prop where
  /-- Nothing has matched it. -/
  unmatched : c.rowMatched = false
  /-- The kind of join keeps it. -/
  kept : f.plan.joinType.keepsProbe = true
  /-- There is room. -/
  room : f.isFull out = false

/-- The work on a row that has been looked up writes it to this writer, without a build side. -/
inductive ContinueLacks (f : ProbeFrame) (c : Cursor) (out : Emission) : RowWriter → Prop
  /-- It is completed at the end of the walk along its chain. -/
  | walked {table : SlotTable} {slot : Nat} {rowMatched : Bool} {out' : Emission}
      (htable : f.table = some table) (hchain : c.chain = .slot slot)
      (hwalk : f.walkChain table c.row c.hash slot c.rowMatched out =
        (.ok (), .exhausted, rowMatched, out'))
      (h : f.Keeps { c with chain := .exhausted, rowMatched := rowMatched } out') :
      ContinueLacks f c out out'.writer
  /-- It is completed without a walk. -/
  | complete (hchain : ∀ slot, c.chain ≠ .slot slot) (h : f.Keeps c out) : ContinueLacks f c out out.writer

/-- The work on the rows of the batch from a cursor on writes one of them to this writer, without a build
side. -/
inductive RowsLack (f : ProbeFrame) : Cursor → Emission → RowWriter → Prop
  /-- The row of the cursor. -/
  | row {c : Cursor} {out : Emission} {w : RowWriter} (hmore : c.row < f.batch.rowCount)
      (hroom : f.isFull out = false) (h : f.ContinueLacks (f.beginRow c) out w) : RowsLack f c out w
  /-- A later row. -/
  | later {c reached : Cursor} {out out' : Emission} {w : RowWriter} (hmore : c.row < f.batch.rowCount)
      (hroom : f.isFull out = false) (hrow : f.probeRow c out = (.ok (), reached, out'))
      (hon : c.row < reached.row) (h : RowsLack f reached out' w) : RowsLack f c out w

variable {f : ProbeFrame} {noBuild noProbe : RowWriter → Prop} {c c' : Cursor} {out out' : Emission}
  {result : Except JoinError Unit}

/-- A match has both sides. -/
theorem written_tryCandidate {row slot : Nat} {result : Except JoinError Bool}
    (h : f.tryCandidate row slot out = (result, out')) :
    RowWriter.Written noBuild noProbe out.writer out'.writer := by
  simp only [tryCandidate] at h
  split at h
  · cases h
    exact .refl _
  · split at h
    · split at h
      · next hwrite =>
        cases h
        exact Emission.written_write hwrite (by rintro ⟨⟩) (by rintro ⟨⟩)
      · next matched hwrite =>
        cases h
        have hmatched : RowWriter.Written noBuild noProbe out.writer matched.writer :=
          Emission.written_write hwrite (by rintro ⟨⟩) (by rintro ⟨⟩)
        exact hmatched
    · cases h
      exact .refl _

theorem written_walkChain {table : SlotTable} {row slot : Nat} {hash : UInt32} {rowMatched matched : Bool}
    {chain : ChainPosition}
    (h : f.walkChain table row hash slot rowMatched out = (result, chain, matched, out')) :
    RowWriter.Written noBuild noProbe out.writer out'.writer := by
  fun_induction f.walkChain table row hash slot rowMatched out with
  | case1 slot rowMatched out hfull =>
    cases h
    exact .refl _
  | case2 slot rowMatched out hroom e out₁ htried =>
    cases h
    exact written_tryCandidate htried
  | case3 slot rowMatched out hroom isMatch out₁ htried hlast =>
    cases h
    exact written_tryCandidate htried
  | case4 slot rowMatched out hroom isMatch out₁ htried later hlater _ ih =>
    exact (written_tryCandidate htried).trans (ih h)

theorem written_completeRow (h : f.completeRow c out = (result, c', out'))
    (hlacks : f.Keeps c out → noBuild out.writer) :
    RowWriter.Written noBuild noProbe out.writer out'.writer := by
  unfold completeRow at h
  split at h
  · next hkept =>
    obtain ⟨hfresh, hkeeps⟩ := Bool.and_eq_true_iff.mp hkept
    split at h
    · cases h
      exact .refl _
    · next hroom =>
      have hrow : noBuild out.writer := hlacks
        ⟨Bool.not_eq_true' _ ▸ hfresh, hkeeps, Bool.not_eq_true _ ▸ hroom⟩
      split at h
      · next hwrite =>
        cases h
        exact Emission.written_write hwrite (fun _ => hrow) nofun
      · next hwrite =>
        cases h
        exact Emission.written_write hwrite (fun _ => hrow) nofun
  · cases h
    exact .refl _

theorem written_continueRow (h : f.continueRow c out = (result, c', out'))
    (hlacks : ∀ w, f.ContinueLacks c out w → noBuild w) :
    RowWriter.Written noBuild noProbe out.writer out'.writer := by
  unfold continueRow at h
  split at h
  · next hchain =>
    exact written_completeRow h fun hkeeps => hlacks _ (.complete (by rw [hchain]; nofun) hkeeps)
  · next hchain =>
    exact written_completeRow h fun hkeeps => hlacks _ (.complete (by rw [hchain]; nofun) hkeeps)
  · next slot hchain =>
    split at h
    · split at h
      · cases h
        exact .refl _
      · cases h
        exact .refl _
    · next table htable =>
      split at h
      · next hwalk =>
        cases h
        exact written_walkChain hwalk
      · next hwalk =>
        exact (written_walkChain hwalk).trans
          (written_completeRow h fun hkeeps => hlacks _ (.walked htable hchain hwalk hkeeps))
      · next hwalk =>
        cases h
        exact written_walkChain hwalk

theorem written_probeRows (h : f.probeRows c out = (result, c', out'))
    (hlacks : ∀ w, f.RowsLack c out w → noBuild w) :
    RowWriter.Written noBuild noProbe out.writer out'.writer := by
  have hgoes : ∀ {c : Cursor} {out : Emission}, (c.row < f.batch.rowCount && !f.isFull out) = true →
      c.row < f.batch.rowCount ∧ f.isFull out = false := by
    intro c out hmore
    simpa using hmore
  fun_induction f.probeRows c out with
  | case1 c out hmore e reached out₁ hrow =>
    cases h
    obtain ⟨hrows, hroom⟩ := hgoes hmore
    exact written_continueRow hrow fun w hw => hlacks w (.row hrows hroom hw)
  | case2 c out hmore reached out₁ hrow hon ih =>
    obtain ⟨hrows, hroom⟩ := hgoes hmore
    have hwritten : RowWriter.Written noBuild noProbe out.writer out₁.writer :=
      written_continueRow hrow fun w hw => hlacks w (.row hrows hroom hw)
    exact hwritten.trans (ih h fun w hw => hlacks w (.later hrows hroom hrow hon hw))
  | case3 c out hmore reached out₁ hrow hstays =>
    cases h
    obtain ⟨hrows, hroom⟩ := hgoes hmore
    exact written_continueRow hrow fun w hw => hlacks w (.row hrows hroom hw)
  | case4 c out hdone =>
    cases h
    exact .refl _

end ProbeFrame

namespace Job

variable {j : Job} {total left : List Joined} {out : Emission} {batch : Batch}
  {pending : List (PendingRow BatchRow)} {w : RowWriter}

/-- A row of the output lacks a side, and the writer has taken rows of the output only. -/
structure Pads (j : Job) (total : List Joined) (side : Side) (w : RowWriter) : Prop where
  /-- The row. -/
  row : ∃ r ∈ total, r.on side = none
  /-- The writer. -/
  writer : ∃ rows, w.Holds j.plan.output rows

theorem Tracks.pads {r : Joined} {side : Side} (h : j.Tracks total out (r :: left))
    (hr : r.on side = none) : j.Pads total side out.writer := by
  obtain ⟨⟨written, htotal, -, hwritten⟩, -, -⟩ := h
  refine ⟨⟨r, ?_, hr⟩, written, hwritten⟩
  rw [← htotal]
  simp

/-- A row that has been compared with all build rows is left without a build side. -/
theorem pads_of_keeps {c : Cursor} (hj : j.Sound total) (h : (j.frame batch).Keeps c out)
    (howes : j.Owes total out (⟨(batch, c.row), j.build.length, c.rowMatched⟩ :: pending)) :
    j.Pads total .build out.writer := by
  have hkeeps : j.kind.keepsProbe = true := hj.kind.trans h.kept
  rw [h.unmatched, Owes, owed, NestedLoop.remaining_of_kept (Nat.le_refl _) hkeeps] at howes
  exact howes.pads rfl

theorem pads_of_continueLacks {c : Cursor} (hj : j.Sound total) (hbatch : j.Suits batch)
    (hplaced : j.Placed batch c) (hstarted : c.chain ≠ .unstarted)
    (howes : j.Owes total out (⟨(batch, c.row), c.chain.reached j.build.length, c.rowMatched⟩ :: pending))
    (h : (j.frame batch).ContinueLacks c out w) : j.Pads total .build w := by
  cases h with
  | complete hchain h =>
    cases hend : c.chain with
    | unstarted => exact absurd hend hstarted
    | slot s => exact absurd hend (hchain s)
    | exhausted =>
      rw [hend] at howes
      exact pads_of_keeps hj h howes
  | @walked table slot rowMatched out' htable hchain hwalk h =>
    rw [hchain] at howes
    obtain ⟨hhash, hslot⟩ := hplaced.slot slot hchain
    rcases walkChain_of_owes hj hbatch (hj.table table htable) hhash hslot howes with
      ⟨_, _, _, hwalk', howes', -⟩ | ⟨_, _, _, _, hwalk', -⟩
    · cases hwalk.symm.trans hwalk'
      exact pads_of_keeps hj h howes'
    · cases hwalk.symm.trans hwalk'

/-- **The rows of a batch that are written without a build side are those that are left without one.** -/
theorem pads_of_rowsLack {c : Cursor} (hj : j.Sound total) (hbatch : j.Suits batch)
    (hplaced : j.Placed batch c)
    (howes : j.Owes total out (c.pending batch j.build.length ++ pending))
    (h : (j.frame batch).RowsLack c out w) : j.Pads total .build w := by
  induction h with
  | row hmore _ h =>
    rw [Cursor.pending_of_lt hmore] at howes
    obtain ⟨hash, chain, hbegin, hstarted, hplaced', howes'⟩ := beginRow_of_owes hj hbatch hplaced howes
    rw [hbegin] at h
    exact pads_of_continueLacks hj hbatch hplaced' hstarted howes' h
  | later hmore _ hrow _ _ ih =>
    obtain ⟨-, hmoved⟩ | ⟨_, ⟨⟩, -⟩ := moved_probeRow hj hbatch hplaced hmore howes hrow
    exact ih hmoved.placed hmoved.owes

end Job

/-! ### Output batches -/

namespace Probe

variable {σ : Type} [BatchSource σ]

/-- The work on the probe rows writes one of them to this writer, without a build side. -/
inductive InputLacks (table : Option SlotTable) (store : BuildStore) :
    Probe → σ → Metrics → Emission → RowWriter → Prop
  /-- A row of the current batch. -/
  | current {p : Probe} {source : σ} {metrics : Metrics} {out : Emission} {batch : Batch} {w : RowWriter}
      (hcurrent : p.current = some batch)
      (h : ProbeFrame.RowsLack ⟨p.plan, table, store, batch⟩ p.cursor out w) :
      InputLacks table store p source metrics out w
  /-- A row of a batch behind it. -/
  | later {p q : Probe} {source source' : σ} {metrics metrics' : Metrics} {out out' : Emission}
      {supply : Supply} {batch : Batch} {w : RowWriter}
      (hworked : probeCurrent table store p out = (.ok (), q, out'))
      (hroom : ¬ q.plan.batchRows ≤ out'.writer.rows)
      (hfetch : q.supply.nextBatch source metrics = (.ok (some batch), supply, source', metrics'))
      (h : InputLacks table store ⟨q.plan, supply, some batch, q.cursor.enterBatch⟩ source' metrics'
        out' w) : InputLacks table store p source metrics out w

/-- The work on the build rows that were never matched writes one of them to this writer, without a probe
side. -/
inductive SweepLacks (store : BuildStore) (ledger : MatchLedger) (batchRows : Nat) :
    Nat → RowWriter → RowWriter → Prop
  /-- The next of them. -/
  | write {slot free : Nat} {writer : RowWriter} {b : BatchRow} (hroom : ¬ batchRows ≤ writer.rows)
      (hfound : ledger.nextUnmatched? slot = some free) (hrow : store.slotRow ledger free = .ok b) :
      SweepLacks store ledger batchRows slot writer writer
  /-- One behind it. -/
  | later {slot free : Nat} {writer writer' w : RowWriter} {b : BatchRow}
      (hroom : ¬ batchRows ≤ writer.rows) (hfound : ledger.nextUnmatched? slot = some free)
      (hrow : store.slotRow ledger free = .ok b)
      (happend : writer.append (some b) none = (.ok (), writer'))
      (h : SweepLacks store ledger batchRows (free + 1) writer' w) :
      SweepLacks store ledger batchRows slot writer w

/-- The work on an output batch writes a row to this writer that lacks a side. -/
inductive OutputLacks (table : Option SlotTable) (store : BuildStore) (ledger : MatchLedger) (p : Probe)
    (source : σ) (metrics : Metrics) : Side → RowWriter → Prop
  /-- A probe row. -/
  | input {w : RowWriter} (hrows : p.plan.batchRows ≠ 0) (hphase : p.cursor.phase = .probing)
      (h : p.InputLacks table store source metrics ⟨.ofSchema p.plan.output, ledger⟩ w) :
      OutputLacks table store ledger p source metrics .build w
  /-- A build row. -/
  | sweep {q : Probe} {source' : σ} {metrics' : Metrics} {out : Emission} {slot : Nat} {w : RowWriter}
      (hrows : p.plan.batchRows ≠ 0)
      (hstage : p.probeStage table store source metrics ⟨.ofSchema p.plan.output, ledger⟩ =
        (.ok (), q, source', metrics', out)) (hphase : q.cursor.phase = .unmatched slot)
      (h : SweepLacks store out.ledger q.plan.batchRows slot out.writer w) :
      OutputLacks table store ledger p source metrics .probe w

section Writing

variable {noBuild noProbe : RowWriter → Prop} {table : Option SlotTable} {store : BuildStore}
  {p q : Probe} {source source' : σ} {metrics metrics' : Metrics} {out out' : Emission}
  {result : Except JoinError Unit}

omit [BatchSource σ] in
theorem written_probeCurrent (h : probeCurrent table store p out = (result, q, out'))
    (hlacks : ∀ batch w, p.current = some batch →
      ProbeFrame.RowsLack ⟨p.plan, table, store, batch⟩ p.cursor out w → noBuild w) :
    RowWriter.Written noBuild noProbe out.writer out'.writer := by
  unfold probeCurrent at h
  split at h
  · cases h
    exact .refl _
  · next batch hcurrent =>
    cases h
    exact ProbeFrame.written_probeRows rfl fun w hw => hlacks batch w hcurrent hw

theorem written_probeInput
    (h : p.probeInput table store source metrics out = (result, q, source', metrics', out'))
    (hlacks : ∀ w, p.InputLacks table store source metrics out w → noBuild w) :
    RowWriter.Written noBuild noProbe out.writer out'.writer := by
  fun_induction Probe.probeInput table store p source metrics out with
  | case1 p source metrics out e q₁ out₁ hworked =>
    cases h
    exact written_probeCurrent hworked fun _ w hcurrent hw => hlacks w (.current hcurrent hw)
  | case2 p source metrics out q₁ out₁ hworked hfull =>
    cases h
    exact written_probeCurrent hworked fun _ w hcurrent hw => hlacks w (.current hcurrent hw)
  | case3 p source metrics out q₁ out₁ hworked hroom e supply rest metrics₁ hfetch =>
    cases h
    exact written_probeCurrent hworked fun _ w hcurrent hw => hlacks w (.current hcurrent hw)
  | case4 p source metrics out q₁ out₁ hworked hroom supply rest metrics₁ hfetch =>
    cases h
    exact written_probeCurrent hworked fun _ w hcurrent hw => hlacks w (.current hcurrent hw)
  | case5 p source metrics out q₁ out₁ hworked hroom batch supply rest metrics₁ hfetch =>
    rename_i ih
    have hwritten : RowWriter.Written noBuild noProbe out.writer out₁.writer :=
      written_probeCurrent hworked fun _ w hcurrent hw => hlacks w (.current hcurrent hw)
    exact hwritten.trans (ih h fun w hw => hlacks w (.later hworked hroom hfetch hw))

omit [BatchSource σ] in
theorem written_sweep {ledger : MatchLedger} {batchRows slot : Nat} {writer writer' : RowWriter}
    {phase : Phase} (h : sweep store ledger batchRows slot writer = (result, phase, writer'))
    (hlacks : ∀ w, SweepLacks store ledger batchRows slot writer w → noProbe w) :
    RowWriter.Written noBuild noProbe writer writer' := by
  fun_induction sweep store ledger batchRows slot writer with
  | case1 slot writer hfull =>
    cases h
    exact .refl _
  | case2 slot writer hroom hnone =>
    cases h
    exact .refl _
  | case3 slot writer hroom free hfound _ e hrow =>
    cases h
    exact .refl _
  | case4 slot writer hroom free hfound _ b hrow e writer₁ happend =>
    cases h
    exact .write happend (by rintro ⟨⟩) (fun _ => hlacks _ (.write hroom hfound hrow)) (.refl _)
  | case5 slot writer hroom free hfound _ b hrow writer₁ happend ih =>
    exact .write happend (by rintro ⟨⟩) (fun _ => hlacks _ (.write hroom hfound hrow))
      (ih h fun w hw => hlacks w (.later hroom hfound hrow happend hw))

/-- **An output batch has no other rows that lack a side.** -/
theorem written_fill {ledger : MatchLedger} (hrows : p.plan.batchRows ≠ 0)
    (h : p.fill table store source metrics ⟨.ofSchema p.plan.output, ledger⟩ =
      (result, q, source', metrics', out)) :
    RowWriter.Written (p.OutputLacks table store ledger source metrics .build)
      (p.OutputLacks table store ledger source metrics .probe) (.ofSchema p.plan.output) out.writer := by
  simp only [fill] at h
  rcases hstage : p.probeStage table store source metrics ⟨.ofSchema p.plan.output, ledger⟩ with
    ⟨result₁, p₁, source₁, metrics₁, out₁⟩
  rw [hstage] at h
  have hinput : RowWriter.Written (p.OutputLacks table store ledger source metrics .build)
      (p.OutputLacks table store ledger source metrics .probe) (.ofSchema p.plan.output) out₁.writer := by
    have hstaged := hstage
    unfold probeStage at hstaged
    split at hstaged
    · next hphase => exact written_probeInput hstaged fun w hw => .input hrows hphase hw
    · cases hstaged
      exact .refl _
    · cases hstaged
      exact .refl _
  split at h
  · next slot hok hphase =>
    cases h
    cases hok
    exact hinput.trans (written_sweep rfl fun w hw => .sweep hrows hstage hphase hw)
  · cases h
    exact hinput

theorem written_nextOutput {ledger ledger' : MatchLedger} {b : Batch}
    (h : p.nextOutput table store ledger source metrics = (.ok (some b), q, ledger', source', metrics')) :
    ∃ w, RowWriter.Written (p.OutputLacks table store ledger source metrics .build)
      (p.OutputLacks table store ledger source metrics .probe) (.ofSchema p.plan.output) w ∧
        w.finish = .ok b := by
  unfold nextOutput at h
  split at h
  · cases h
  · next hrows =>
    split at h
    · cases h
    · next out hfill =>
      refine ⟨out.writer, written_fill hrows hfill, ?_⟩
      have hcollect : collect out.writer = .ok (some b) := congrArg Prod.fst h
      unfold collect at hcollect
      split at hcollect
      · cases hcollect
      · split at hcollect
        · cases hcollect
        · next hfinish =>
          cases hcollect
          exact hfinish

end Writing

variable {j : Job} {total : List Joined} {p : Probe} {source : σ} {batches : List Batch}
  {ending : Option JoinError} {out : Emission} {metrics : Metrics} {w : RowWriter}

theorem pads_of_inputLacks (hj : j.Sound total) (h : p.Stands j source batches ending)
    (howes : j.Owes total out (p.pending j.build.length batches))
    (hlacks : p.InputLacks j.table j.store source metrics out w) : j.Pads total .build w := by
  induction hlacks generalizing batches with
  | current hcurrent hlacks =>
    obtain ⟨hsuits, hplaced⟩ := h.current _ hcurrent
    rw [h.plan] at hlacks
    rw [pending, hcurrent, Option.map_some, Option.getD_some] at howes
    exact Job.pads_of_rowsLack hj hsuits hplaced howes hlacks
  | later hworked hroom hfetch _ ih =>
    obtain ⟨-, hq⟩ | ⟨_, ⟨⟩, -⟩ := worked_probeCurrent hj h howes hworked
    rw [hq.stands.plan] at hroom
    have howes' := hq.owes
    obtain ⟨rest, hentered, hpending⟩ := hq.stands.enter hfetch
    rw [hq.done hroom, ← hpending] at howes'
    exact ih hentered howes'

omit [BatchSource σ] in
/-- **The build rows that are written without a probe side are those that are left without one.** -/
theorem pads_of_sweepLacks {ledger : MatchLedger} {slot : Nat} {writer : RowWriter} (hj : j.Sound total)
    (h : j.Tracks total ⟨writer, ledger⟩ (NestedLoop.sweepRows j.build ledger.isMatched slot))
    (hlacks : SweepLacks j.store ledger j.plan.batchRows slot writer w) : j.Pads total .probe w := by
  -- every slot stands for a row, and the rows of unmatched slots are left
  have hnext : ∀ {slot free : Nat} {writer : RowWriter} {b : BatchRow},
      j.Tracks total ⟨writer, ledger⟩ (NestedLoop.sweepRows j.build ledger.isMatched slot) →
        ledger.nextUnmatched? slot = some free → j.store.slotRow ledger free = .ok b →
        j.Tracks total ⟨writer, ledger⟩
          (⟨some b, none⟩ :: NestedLoop.sweepRows j.build ledger.isMatched (free + 1)) := by
    intro slot free writer b h hfound hrow
    have hfree : free < j.build.length := by
      rw [← h.serves.length]
      exact (MatchLedger.bounds_of_nextUnmatched? hfound).2
    rw [h.serves.row free _ (List.getElem?_eq_getElem hfree)] at hrow
    cases hrow
    rw [sweepRows_of_nextUnmatched? hfound hfree] at h
    exact h
  induction hlacks with
  | write _ hfound hrow => exact (hnext h hfound hrow).pads rfl
  | later hroom hfound hrow happend _ ih =>
    obtain ⟨-, h'⟩ | ⟨_, ⟨⟩, -⟩ :=
      Job.append_of_tracks hj (Nat.lt_of_not_le hroom) (hnext h hfound hrow) happend
    exact ih h'

/-- **The rows of an output batch that are written without a side are those that are left without it.** -/
theorem pads_of_outputLacks {ledger : MatchLedger} {side : Side}
    (h : p.Ready j ledger source batches ending) (hj : j.Sound (p.left j batches ledger))
    (hlacks : OutputLacks j.table j.store ledger p source metrics side w) :
    j.Pads (p.left j batches ledger) side w := by
  cases hlacks with
  | input _ hphase hlacks =>
    have howes := h.tracks
    rw [left, hphase] at howes hj ⊢
    exact pads_of_inputLacks hj h.stands howes hlacks
  | @sweep q _ _ out slot _ _ hstage hphase hlacks =>
    rcases probeStage_of_stands metrics hj h.stands h.tracks with
      ⟨_, _, _, _, batches', hstage', hq, htracks, -⟩ | ⟨_, _, _, _, _, hstage', -⟩
    · cases hstage.symm.trans hstage'
      have hleft : q.left j batches' out.ledger =
          NestedLoop.sweepRows j.build out.ledger.isMatched slot := by
        rw [left, hphase]
      rw [hleft] at htracks
      rw [hq.plan] at hlacks
      exact pads_of_sweepLacks hj htracks hlacks
    · cases hstage.symm.trans hstage'

end Probe
end HashJoin
