import HashJoin.Checked.Probing
import HashJoin.Proofs.Checked.Rows
import HashJoin.Proofs.Checked.Table
import HashJoin.Proofs.Probe.Ledger
import HashJoin.Proofs.Probe.Output

/-!
# Checked probing is probing

The loop that makes an output batch in one go comes to the same as working on the probe rows first, batch by
batch, and then on the build rows that were never matched. No check of it fails while the parts of a probe
fit together: a row that is worked on has a batch, a cursor at a slot has a table and a build row, and an
emission only gains marks, so every slot keeps its row and its bit.

## Main results

* `tryCandidate_eq`, `walkRow_eq`, `probeRow_eq` — a candidate, a chain and a row.
* `fill_of_probeRows`, `fill_of_probeInput`, `fill_of_sweep` — the rounds of the loop that the rows of a
  batch, all probe rows and the unmatched build rows take.
* `nextOutput_eq` — **an output batch.**
-/

namespace HashJoin

namespace Job

variable {j : Job} {total : List Joined} {batch : Batch} {row slot : Nat}

/-- The keys of a batch that can be compared with the build rows are among its columns. -/
theorem Suits.lt_of_key {b : BatchRow} (h : j.Suits batch) (hb : b ∈ j.build) :
    (∀ key ∈ j.plan.keys.probe, key.index < batch.columns.length) ∧
      ∀ key ∈ j.plan.keys.build, key.index < b.1.columns.length :=
  ⟨JoinKeys.lt_of_resolve_probe (h.keys b hb), JoinKeys.lt_of_resolve_build (h.keys b hb)⟩

/-- There is a table only if there are build rows. -/
theorem Sound.exists_build {table : SlotTable} (hj : j.Sound total) (htable : j.table = some table) :
    ∃ b, b ∈ j.build := by
  refine List.exists_mem_of_ne_nil _ fun hnil => ?_
  cases htable.symm.trans (hj.bare.mpr hnil)

end Job

namespace Checked

variable {j : Job} {total : List Joined} {out : Emission} {batch : Batch} {row slot : Nat}
  {pending : List (PendingRow BatchRow)} {c : Cursor}

/-! ### Probe rows -/

theorem Readable.of_suits (h : j.Suits batch) (hrow : row < batch.rowCount) : Readable (batch, row) :=
  ⟨h.wellFormed.columns, hrow⟩

/-- A slot that stands for a build row leads to a row that can be read. -/
theorem exists_readable {ledger : MatchLedger} (hj : j.Sound total)
    (hserves : j.store.Serves ledger j.build) (hslot : slot < j.build.length) :
    ∃ b ∈ j.build, j.store.slotRow ledger slot = .ok b ∧ Readable b := by
  have hget : j.store.slotRow ledger slot = .ok j.build[slot] :=
    hserves.row slot _ (List.getElem?_eq_getElem hslot)
  have hmem : j.build[slot] ∈ j.build := List.getElem_mem hslot
  obtain ⟨_, -, -, -, hlt⟩ := BuildStore.slotRow_eq_ok hget
  exact ⟨_, hmem, hget, (hj.formed _ hmem).columns, hlt⟩

theorem writeRow_eq (out : Emission) {build probe : Option BatchRow}
    (hbuild : ∀ r, build = some r → Readable r) (hprobe : ∀ r, probe = some r → Readable r) :
    writeRow out build probe = pure (out.write build probe) := by
  obtain ⟨writer, ledger⟩ := out
  rw [writeRow, append_eq writer hbuild hprobe, pure_bind, Emission.write]
  rcases writer.append build probe with ⟨_ | _, writer'⟩
  · rfl
  · rfl

/-- A row is looked up by its key columns, which it has if there is a table. -/
theorem lookUp_eq (hj : j.Sound total) (h : j.Suits batch) (hrow : row < batch.rowCount) :
    lookUp (j.frame batch) row = pure ((j.frame batch).lookUp row) := by
  unfold lookUp ProbeFrame.lookUp
  cases htable : j.table with
  | none => simp only [htable]
  | some table =>
    obtain ⟨b, hb⟩ := hj.exists_build htable
    have hkeys : Covers batch j.plan.keys.probe := (h.lt_of_key hb).1
    simp only [htable, canMatch_eq hkeys, pure_bind, hashRow_eq (.of_suits h hrow) hkeys,
      first_eq (hj.table table htable)]
    cases j.plan.keys.canMatch batch row with
    | false => rfl
    | true => rfl

theorem beginRow_eq (hj : j.Sound total) (h : j.Suits batch) (hrow : c.row < batch.rowCount) :
    beginRow (j.frame batch) c = pure ((j.frame batch).beginRow c) := by
  unfold beginRow ProbeFrame.beginRow
  cases c.chain with
  | unstarted => simp only [lookUp_eq hj h hrow, pure_bind]
  | slot => rfl
  | exhausted => rfl

/-- **A candidate** has a build row and a bit, and both rows have the key columns. -/
theorem tryCandidate_eq (hj : j.Sound total) (h : j.Suits batch) (hrow : row < batch.rowCount)
    (hserves : j.store.Serves out.ledger j.build) (hcovered : out.ledger.Covered)
    (hslot : slot < j.build.length) :
    tryCandidate (j.frame batch) row slot out = pure ((j.frame batch).tryCandidate row slot out) := by
  obtain ⟨⟨build, buildRow⟩, hmem, hget, hbuild⟩ := exists_readable hj hserves hslot
  obtain ⟨hprobeKeys, hbuildKeys⟩ := h.lt_of_key hmem
  have hprobe : Readable (batch, row) := .of_suits h hrow
  have hwrite : writeRow out (some (build, buildRow)) (some (batch, row)) =
      pure (out.write (some (build, buildRow)) (some (batch, row))) := by
    apply writeRow_eq
    · rintro _ ⟨⟩
      exact hbuild
    · rintro _ ⟨⟩
      exact hprobe
  simp only [tryCandidate, slotRow_eq hget, pure_bind, keysEqual_eq hprobe hbuild hprobeKeys hbuildKeys,
    ProbeFrame.tryCandidate, hget]
  refine ite_eq (fun _ => ?_) fun _ => rfl
  simp only [hwrite, pure_bind]
  rcases hwritten : out.write (some (build, buildRow)) (some (batch, row)) with ⟨_ | _, out'⟩
  · rfl
  · rw [← Emission.ledger_write hwritten] at hcovered
    simp only [mark_eq hcovered, pure_bind]
    rfl

theorem completeRow_eq (h : j.Suits batch) (hrow : c.row < batch.rowCount) :
    completeRow (j.frame batch) c out = pure ((j.frame batch).completeRow c out) := by
  have hwrite : writeRow out none (some (batch, c.row)) = pure (out.write none (some (batch, c.row))) := by
    apply writeRow_eq
    · rintro _ ⟨⟩
    · rintro _ ⟨⟩
      exact .of_suits h hrow
  unfold completeRow ProbeFrame.completeRow
  refine ite_eq (fun _ => ite_eq (fun _ => rfl) fun _ => ?_) fun _ => rfl
  simp only [hwrite, pure_bind]
  rcases out.write none (some (batch, c.row)) with ⟨_ | _, out'⟩
  · rfl
  · rfl

/-- A row without further candidates is completed. -/
theorem walkRow_of_ended (h : j.Suits batch) (hrow : c.row < batch.rowCount)
    (hchain : c.chain = .unstarted ∨ c.chain = .exhausted) :
    walkRow (j.frame batch) c out = pure ((j.frame batch).completeRow c out) := by
  rw [walkRow, repeat_eq, walkRound]
  rcases hchain with hchain | hchain
  · simp only [hchain, completeRow_eq h hrow, pure_bind, Sum.elim_inr]
  · simp only [hchain, completeRow_eq h hrow, pure_bind, Sum.elim_inr]

/-- A chain is walked from slot to slot, each of which has a build row. -/
theorem walkRow_of_slot {table : SlotTable} {m : Bool} (hj : j.Sound total) (h : j.Suits batch)
    (hrow : c.row < batch.rowCount) (htable : j.table = some table)
    (hserves : j.store.Serves out.ledger j.build) (hcovered : out.ledger.Covered)
    (hslot : slot < j.build.length) :
    walkRow (j.frame batch) { c with chain := .slot slot, rowMatched := m } out =
      pure ((j.frame batch).continueRow { c with chain := .slot slot, rowMatched := m } out) := by
  have hholds := hj.table table htable
  have hlength : table.length = j.build.length := by
    rw [SlotTable.length_of_holds hholds, List.length_map]
  simp only [ProbeFrame.continueRow, htable]
  -- on the candidates, each of which leaves the slots their rows and their bits
  fun_induction ProbeFrame.walkChain (j.frame batch) table c.row c.hash slot m out with
  | case1 slot m out hfull =>
    rw [walkRow, repeat_eq, walkRound]
    simp only [hfull, if_true, pure_bind, Sum.elim_inr]
  | case2 slot m out hroom e out' htry =>
    rw [walkRow, repeat_eq, walkRound]
    simp only [if_neg hroom, htable, tryCandidate_eq hj h hrow hserves hcovered hslot, htry, pure_bind,
      Sum.elim_inr]
  | case3 slot m out hroom isMatch out' htry hnext =>
    rw [walkRow, repeat_eq, walkRound]
    simp only [if_neg hroom, htable, tryCandidate_eq hj h hrow hserves hcovered hslot, htry, pure_bind,
      next_eq hholds, hnext, Sum.elim_inl]
    exact walkRow_of_ended h hrow (.inr rfl)
  | case4 slot m out hroom isMatch out' htry later hnext _ ih =>
    have hmarked := ProbeFrame.marked_tryCandidate htry
    rw [walkRow, repeat_eq, walkRound]
    simp only [if_neg hroom, htable, tryCandidate_eq hj h hrow hserves hcovered hslot, htry, pure_bind,
      next_eq hholds, hnext, Sum.elim_inl]
    refine ih (hserves.congr hmarked.links_eq) (hmarked.covered hcovered) ?_
    rw [← hlength]
    exact (SlotTable.bounds_of_next? hnext).2

/-- **The chain of a row** that has been looked up, and what follows it. -/
theorem walkRow_eq (hj : j.Sound total) (h : j.Suits batch) (hplaced : j.Placed batch c)
    (hrow : c.row < batch.rowCount) (hserves : j.store.Serves out.ledger j.build)
    (hcovered : out.ledger.Covered) :
    walkRow (j.frame batch) c out = pure ((j.frame batch).continueRow c out) := by
  obtain ⟨number, row, hash, chain, matched, phase⟩ := c
  cases chain with
  | unstarted => exact walkRow_of_ended h hrow (.inl rfl)
  | exhausted => exact walkRow_of_ended h hrow (.inr rfl)
  | slot s =>
    obtain ⟨-, hslot⟩ := hplaced.slot s rfl
    obtain ⟨hlt, -⟩ := List.getElem?_eq_some_iff.mp hslot
    rw [Job.length_hashes] at hlt
    cases htable : j.table with
    -- a cursor is at a slot only if there is a table
    | none =>
      rw [Job.hashes, hj.bare.mp htable] at hslot
      cases hslot
    | some table =>
      exact walkRow_of_slot (c := ⟨number, row, hash, .slot s, matched, phase⟩) hj h hrow htable hserves
        hcovered hlt

/-- **The row of a cursor** is looked up, and worked on as far as the output batch has room. -/
theorem probeRow_eq (supply : Supply) (hj : j.Sound total) (h : j.Suits batch)
    (hplaced : j.Placed batch c) (hrow : c.row < batch.rowCount)
    (howes : j.Owes total out (c.pending batch j.build.length ++ pending)) :
    probeRow j.table j.store ⟨j.plan, supply, some batch, c⟩ out =
      pure (match (j.frame batch).probeRow c out with
        | (result, cursor, out) => (result, ⟨j.plan, supply, some batch, cursor⟩, out)) := by
  rw [Cursor.pending_of_lt hrow] at howes
  obtain ⟨hash, chain, hbegin, -, hplaced', -⟩ := Job.beginRow_of_owes hj h hplaced howes
  have hwalk := walkRow_eq (c := { c with hash := hash, chain := chain }) hj h hplaced' hrow howes.serves
    howes.covered
  simp only [probeRow, beginRow_eq hj h hrow, pure_bind, ProbeFrame.probeRow, hbegin, hwalk]

/-! ### The rounds of the loop -/

section Rounds

variable {σ : Type} [BatchSource σ] {source : σ} {metrics : Metrics} {supply : Supply} {p : Probe}
  {batches : List Batch} {ending : Option JoinError}

/-- A full output batch ends the loop. -/
theorem fill_of_full (hfull : p.plan.batchRows ≤ out.writer.rows) :
    fill j.table j.store p source metrics out = pure (.ok (), p, source, metrics, out) := by
  rw [fill, repeat_eq, fillRound, if_pos hfull, pure_bind]
  rfl

/-- The loop ends when nothing is left. -/
theorem fill_of_done (hphase : p.cursor.phase = .done) :
    fill j.table j.store p source metrics out = pure (.ok (), p, source, metrics, out) := by
  rw [fill, repeat_eq, fillRound]
  simp only [hphase, ite_self, pure_bind, Sum.elim_inr]

/-- A round works on the row of the cursor, if there is one and the output batch has room. -/
theorem fill_of_probeRow (hj : j.Sound total) (h : j.Suits batch) (hplaced : j.Placed batch c)
    (hphase : c.phase = .probing)
    (hmore : (decide (c.row < batch.rowCount) && !(j.frame batch).isFull out) = true)
    (howes : j.Owes total out (c.pending batch j.build.length ++ pending)) :
    fill j.table j.store ⟨j.plan, supply, some batch, c⟩ source metrics out =
      match (j.frame batch).probeRow c out with
      | (.error e, c, out) => pure (.error e, ⟨j.plan, supply, some batch, c⟩, source, metrics, out)
      | (.ok (), c, out) =>
        fill j.table j.store ⟨j.plan, supply, some batch, c⟩ source metrics out := by
  obtain ⟨hrow, hroom⟩ : c.row < batch.rowCount ∧ ¬ j.plan.batchRows ≤ out.writer.rows := by
    simpa [ProbeFrame.isFull] using hmore
  have hcurrent : Probe.needsBatch ⟨j.plan, supply, some batch, c⟩ = false :=
    decide_eq_false (Nat.not_le_of_lt hrow)
  rw [fill, repeat_eq, fillRound, if_neg hroom]
  simp only [hphase, hcurrent, Bool.false_eq_true, if_false, probeRow_eq supply hj h hplaced hrow howes,
    pure_bind]
  rcases (j.frame batch).probeRow c out with ⟨_ | _, c', out'⟩
  · rfl
  · rfl

/-- The loop works on the rows of a batch, one in each round. -/
theorem fill_of_probeRows (hj : j.Sound total) (h : j.Suits batch) (hplaced : j.Placed batch c)
    (hphase : c.phase = .probing)
    (howes : j.Owes total out (c.pending batch j.build.length ++ pending)) :
    fill j.table j.store ⟨j.plan, supply, some batch, c⟩ source metrics out =
      match (j.frame batch).probeRows c out with
      | (.error e, c, out) => pure (.error e, ⟨j.plan, supply, some batch, c⟩, source, metrics, out)
      | (.ok (), c, out) =>
        fill j.table j.store ⟨j.plan, supply, some batch, c⟩ source metrics out := by
  -- on the rows of the batch, as the cursor moves through them
  fun_induction ProbeFrame.probeRows (j.frame batch) c out with
  | case1 c out hmore e c' out' hrow =>
    rw [fill_of_probeRow hj h hplaced hphase hmore howes, hrow]
  | case2 c out hmore c' out' hrow hon ih =>
    have hlt : c.row < batch.rowCount := of_decide_eq_true (Bool.and_eq_true_iff.mp hmore).1
    obtain ⟨-, hmoved⟩ | ⟨_, ⟨⟩, -⟩ := Job.moved_probeRow hj h hplaced hlt howes hrow
    rw [fill_of_probeRow hj h hplaced hphase hmore howes, hrow]
    exact ih hmoved.placed (hmoved.phase.trans hphase) hmoved.owes
  | case3 c out hmore c' out' hrow hstay =>
    rw [fill_of_probeRow hj h hplaced hphase hmore howes, hrow]
  | case4 c out hstop => rfl

/-- Once the rows of the current batch are done with, there is no row to walk in it. -/
theorem needsBatch_of_pending {buildRows : Nat}
    (h : p.pending buildRows batches = (streamRows batches).map NestedLoop.fresh) :
    p.needsBatch = true := by
  obtain ⟨plan, supply, current, cursor⟩ := p
  cases current with
  | none => rfl
  | some batch =>
    refine decide_eq_true (Nat.le_of_not_lt fun hlt => ?_)
    have hnone := List.append_left_eq_self.mp h
    rw [Option.map_some, Option.getD_some, Cursor.pending_of_lt hlt] at hnone
    cases hnone

/-- The loop works on the current batch. -/
theorem fill_of_probeCurrent (hj : j.Sound total) (h : p.Stands j source batches ending)
    (hphase : p.cursor.phase = .probing) (howes : j.Owes total out (p.pending j.build.length batches)) :
    fill j.table j.store p source metrics out =
      match p.probeCurrent j.table j.store out with
      | (.error e, p, out) => pure (.error e, p, source, metrics, out)
      | (.ok (), p, out) => fill j.table j.store p source metrics out := by
  obtain ⟨plan, supply, current, cursor⟩ := p
  obtain ⟨rfl, -, -, hcurrent, -, -⟩ := h
  cases current with
  | none => rfl
  | some batch =>
    obtain ⟨hb, hplaced⟩ := hcurrent batch rfl
    rw [fill_of_probeRows hj hb hplaced hphase howes]
    simp only [Probe.probeCurrent]
    rcases (j.frame batch).probeRows cursor out with ⟨_ | _, c', out'⟩
    · rfl
    · rfl

/-- A round fetches the next batch if there is no row to walk. -/
theorem fill_of_needsBatch (hroom : ¬ p.plan.batchRows ≤ out.writer.rows)
    (hphase : p.cursor.phase = .probing) (hneeds : p.needsBatch = true) :
    fill j.table j.store p source metrics out =
      match p.supply.nextBatch source metrics with
      | (.error e, supply, source, metrics) =>
        pure (.error e, { p with supply := supply }, source, metrics, out)
      | (.ok none, supply, source, metrics) =>
        let cursor := { p.cursor with phase := p.afterInput }
        fill j.table j.store ⟨p.plan, supply, none, cursor⟩ source metrics out
      | (.ok (some batch), supply, source, metrics) =>
        fill j.table j.store ⟨p.plan, supply, some batch, p.cursor.enterBatch⟩ source metrics out := by
  rw [fill, repeat_eq, fillRound, if_neg hroom]
  simp only [hphase, hneeds, if_true]
  rcases p.supply.nextBatch source metrics with ⟨_ | _ | _, _⟩
  · rw [pure_bind]
    rfl
  · rw [pure_bind]
    rfl
  · rw [pure_bind]
    rfl

/-- The loop works on all probe rows, batch by batch. -/
theorem fill_of_probeInput (hj : j.Sound total) (h : p.Stands j source batches ending)
    (hphase : p.cursor.phase = .probing) (howes : j.Owes total out (p.pending j.build.length batches)) :
    fill j.table j.store p source metrics out =
      match p.probeInput j.table j.store source metrics out with
      | (.error e, p, source, metrics, out) => pure (.error e, p, source, metrics, out)
      | (.ok (), p, source, metrics, out) => fill j.table j.store p source metrics out := by
  -- on the batches as they are entered, each of them once the one before is done with
  fun_induction Probe.probeInput j.table j.store p source metrics out generalizing batches with
  | case1 p source metrics out e q out' hworked =>
    rw [fill_of_probeCurrent hj h hphase howes, hworked]
  | case2 p source metrics out q out' hworked hfull =>
    rw [fill_of_probeCurrent hj h hphase howes, hworked]
  | case3 p source metrics out q out' hworked hroom e supply source' metrics' hfetch =>
    obtain ⟨-, hq⟩ | ⟨_, ⟨⟩, -⟩ := Probe.worked_probeCurrent hj h howes hworked
    have hneeds := needsBatch_of_pending (hq.done (hq.stands.plan ▸ hroom))
    rw [fill_of_probeCurrent hj h hphase howes, hworked]
    simp only [fill_of_needsBatch hroom (hq.phase.trans hphase) hneeds, hfetch]
  | case4 p source metrics out q out' hworked hroom supply source' metrics' hfetch =>
    obtain ⟨-, hq⟩ | ⟨_, ⟨⟩, -⟩ := Probe.worked_probeCurrent hj h howes hworked
    have hneeds := needsBatch_of_pending (hq.done (hq.stands.plan ▸ hroom))
    rw [fill_of_probeCurrent hj h hphase howes, hworked]
    simp only [fill_of_needsBatch hroom (hq.phase.trans hphase) hneeds, hfetch]
    rfl
  | case5 p source metrics out q out' hworked hroom b supply source' metrics' hfetch =>
    rename_i _ entered ih
    obtain ⟨-, hq⟩ | ⟨_, ⟨⟩, -⟩ := Probe.worked_probeCurrent hj h howes hworked
    have hdone := hq.done (hq.stands.plan ▸ hroom)
    have hneeds := needsBatch_of_pending hdone
    obtain ⟨rest, hentered, hpending⟩ := hq.stands.enter hfetch
    have howes' := hq.owes
    rw [hdone, ← hpending] at howes'
    rw [fill_of_probeCurrent hj h hphase howes, hworked]
    simp only [fill_of_needsBatch hroom (hq.phase.trans hphase) hneeds, hfetch]
    exact ih hentered (hq.phase.trans hphase) howes'

/-- The loop writes the build rows that were never matched, one in each round. -/
theorem fill_of_sweep {current : Option Batch} {writer : RowWriter} {ledger : MatchLedger}
    (hj : j.Sound total) (hserves : j.store.Serves ledger j.build) (hcovered : ledger.Covered) :
    fill j.table j.store ⟨j.plan, supply, current, { c with phase := .unmatched slot }⟩ source metrics
        ⟨writer, ledger⟩ =
      pure (match Probe.sweep j.store ledger j.plan.batchRows slot writer with
        | (result, phase, writer) =>
          (result, ⟨j.plan, supply, current, { c with phase := phase }⟩, source, metrics,
            ⟨writer, ledger⟩)) := by
  have hwrite : ∀ writer {slot free row}, ledger.nextUnmatched? slot = some free →
      j.store.slotRow ledger free = .ok row → writeRow ⟨writer, ledger⟩ (some row) none =
        pure (Emission.write ⟨writer, ledger⟩ (some row) none) := by
    intro writer slot free row hfound hrow
    have hfree := (MatchLedger.bounds_of_nextUnmatched? hfound).2
    obtain ⟨_, -, hget, hread⟩ := exists_readable hj hserves (hserves.length ▸ hfree)
    rw [hrow] at hget
    cases hget
    apply writeRow_eq
    · rintro _ ⟨⟩
      exact hread
    · rintro _ ⟨⟩
  fun_induction Probe.sweep j.store ledger j.plan.batchRows slot writer with
  | case1 slot writer hfull => exact fill_of_full hfull
  | case2 slot writer hroom hfound =>
    rw [fill, repeat_eq, fillRound, if_neg hroom]
    simp only [nextUnmatched_eq hcovered, hfound, pure_bind, Sum.elim_inl]
    exact fill_of_done rfl
  | case3 slot writer hroom free hfound hbounds e hrow =>
    -- every slot stands for a row
    obtain ⟨_, -, hget, -⟩ := exists_readable hj hserves (hserves.length ▸ hbounds.2)
    rw [hrow] at hget
    cases hget
  | case4 slot writer hroom free hfound hbounds row hrow e writer' happend =>
    rw [fill, repeat_eq, fillRound, if_neg hroom]
    simp only [nextUnmatched_eq hcovered, hfound, pure_bind, slotRow_eq hrow,
      hwrite writer hfound hrow, Emission.write, happend, Sum.elim_inr]
  | case5 slot writer hroom free hfound hbounds row hrow writer' happend ih =>
    rw [fill, repeat_eq, fillRound, if_neg hroom]
    simp only [nextUnmatched_eq hcovered, hfound, pure_bind, slotRow_eq hrow,
      hwrite writer hfound hrow, Emission.write, happend, Sum.elim_inl]
    exact ih

/-- Behind the probe rows, the loop writes build rows if there are any to write. -/
theorem fill_behind (hj : j.Sound total) (hplan : p.plan = j.plan)
    (hserves : j.store.Serves out.ledger j.build) (hcovered : out.ledger.Covered)
    (hfull : p.cursor.phase = .probing → j.plan.batchRows ≤ out.writer.rows) :
    fill j.table j.store p source metrics out =
      pure (match p.cursor.phase with
        | .unmatched slot =>
          match Probe.sweep j.store out.ledger p.plan.batchRows slot out.writer with
          | (result, phase, writer) =>
            (result, { p with cursor := { p.cursor with phase := phase } }, source, metrics,
              ⟨writer, out.ledger⟩)
        | _ => (.ok (), p, source, metrics, out)) := by
  obtain ⟨plan, supply, current, number, row, hash, chain, matched, phase⟩ := p
  obtain rfl : plan = j.plan := hplan
  cases phase with
  | probing => exact fill_of_full (hfull rfl)
  | done => exact fill_of_done rfl
  | unmatched slot =>
    exact fill_of_sweep (c := ⟨number, row, hash, chain, matched, .done⟩) hj hserves hcovered

/-- The loop writes probe rows as long as there are any, and then build rows. -/
theorem fill_eq (metrics : Metrics) (hj : j.Sound total) (h : p.Stands j source batches ending)
    (htracks : j.Tracks total out (p.left j batches out.ledger)) :
    fill j.table j.store p source metrics out = pure (p.fill j.table j.store source metrics out) := by
  have hstage := Probe.probeStage_of_stands metrics hj h htracks
  unfold Probe.fill
  unfold Probe.probeStage at hstage ⊢
  cases hphase : p.cursor.phase with
  | probing =>
    rw [Probe.left, hphase] at htracks
    simp only [hphase] at hstage
    rw [fill_of_probeInput hj h hphase htracks]
    rcases hstage with ⟨q, source', metrics', out', batches', hinput, hq, htracks', hfull⟩ |
      ⟨e, q, source', metrics', out', hinput, -⟩
    · rw [hinput]
      simp only
      rw [fill_behind hj hq.plan htracks'.serves htracks'.covered hfull]
      cases q.cursor.phase with
      | probing => rfl
      | done => rfl
      | unmatched slot => rfl
    · rw [hinput]
  | unmatched slot =>
    rw [fill_behind hj h.plan htracks.serves htracks.covered fun hprobing => by
      cases hphase.symm.trans hprobing]
    simp only [hphase]
  | done =>
    rw [fill_behind hj h.plan htracks.serves htracks.covered fun hprobing => by
      cases hphase.symm.trans hprobing]
    simp only [hphase]

/-- **An output batch**: no check fails and no index is out of range, whichever rows have been made before
and wherever the batch stops. -/
theorem nextOutput_eq {ledger : MatchLedger} (metrics : Metrics)
    (h : p.Ready j ledger source batches ending) (hj : j.Sound (p.left j batches ledger))
    (hfields : j.plan.output.buildWidth ≤ j.plan.output.schema.fields.length) :
    nextOutput j.table j.store ledger p source metrics =
      pure (p.nextOutput j.table j.store ledger source metrics) := by
  rw [nextOutput, openWriter_eq (h.stands.plan ▸ hfields), pure_bind, Probe.nextOutput]
  by_cases hrows : p.plan.batchRows = 0
  -- a batch without rows is full before the loop
  · rw [if_pos hrows, fill_of_full (hrows ▸ Nat.zero_le _)]
    rfl
  · rw [if_neg hrows, fill_eq metrics hj h.stands h.tracks, pure_bind]
    rcases p.fill j.table j.store source metrics ⟨.ofSchema p.plan.output, ledger⟩ with
      ⟨_ | _, q, source', metrics', out'⟩
    · rfl
    · rfl

end Rounds

end Checked
end HashJoin
