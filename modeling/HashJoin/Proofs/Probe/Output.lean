import HashJoin.Proofs.Probe.Supplying
import HashJoin.Proofs.Probe.Walking

/-!
# Output batches

Between two output batches a probe has some rows left to make, which its cursor, its supply and the
marks of the ledger determine. The next output batch is the first of these rows, as many as it may
have, and the others are left. If the probe rows break off, only full output batches are made before.

## Main definitions

* `Probe.left` — the rows that are left.
* `Probe.Stands` — a probe whose parts fit to what is joined.
* `Job.Fails` — how an output batch can fail.

## Main results

* `probeInput_of_stands`, `sweep_of_tracks` — the two stages of an output batch.
* `nextOutput_of_ready` — **an output batch is the first of the rows that are left.**
-/

namespace HashJoin

/-- How an output batch can fail: a row overflows, or the probe rows break off before the batch is
full. -/
inductive Job.Fails (j : Job) (total : List Joined) (ending : Option JoinError) (e : JoinError) : Prop
  /-- A row overflows. -/
  | overflow (h : j.Overflows total e)
  /-- The probe rows break off. -/
  | broken (hending : ending = some e) (hrows : total.length < j.plan.batchRows)

namespace Probe

/-- The probe rows that are not done with. -/
def pending (p : Probe) (buildRows : Nat) (batches : List Batch) : List (PendingRow BatchRow) :=
  (p.current.map fun b => p.cursor.pending b buildRows).getD [] ++
    (streamRows batches).map NestedLoop.fresh

/-- The rows that are left to make, given the probe batches still to come and the marks. -/
def left (p : Probe) (j : Job) (batches : List Batch) (ledger : MatchLedger) : List Joined :=
  match p.cursor.phase with
  | .probing => j.owed ledger (p.pending j.build.length batches)
  | .unmatched slot => NestedLoop.sweepRows j.build ledger.isMatched slot
  | .done => []

variable {σ : Type} [BatchSource σ]

/-- The parts of a probe fit to what is joined. -/
structure Stands (p : Probe) (j : Job) (source : σ) (batches : List Batch)
    (ending : Option JoinError) : Prop where
  /-- What is to be done. -/
  plan : p.plan = j.plan
  /-- The batches still to come. -/
  awaits : p.supply.Awaits source batches ending
  /-- They have the schema that the keys were resolved by. -/
  suits : ∀ b ∈ batches, b.rowCount ≠ 0 → j.Suits b
  /-- The batch that is being walked, and the place in it. -/
  current : ∀ b, p.current = some b → j.Suits b ∧ j.Placed b p.cursor
  /-- If the probe rows come to their end, all rows without a match are kept as planned. -/
  whole : ending = none → j.kind = j.plan.joinType
  /-- If the probe rows break off, build rows without a match are never reached. -/
  broken : ending ≠ none → j.kind.keepsBuild = false ∧ p.cursor.phase = .probing

variable {j : Job} {total : List Joined} {p : Probe} {source : σ} {batches : List Batch}
  {ending : Option JoinError} {out : Emission}

/-! ### Probe rows -/

/-- What the work on the current batch leaves behind: the batch is done with, or the output batch is
full. -/
structure Worked (j : Job) (total : List Joined) (source : σ) (batches : List Batch)
    (ending : Option JoinError) (p q : Probe) (out' : Emission) : Prop where
  /-- The parts of the probe still fit. -/
  stands : q.Stands j source batches ending
  /-- The stage is the same. -/
  phase : q.cursor.phase = p.cursor.phase
  /-- The rows written and those left are still all. -/
  owes : j.Owes total out' (q.pending j.build.length batches)
  /-- If there is room for more, only the batches still to come are left. -/
  done : ¬ j.plan.batchRows ≤ out'.writer.rows →
    q.pending j.build.length batches = (streamRows batches).map NestedLoop.fresh

/-- Working on the current batch ends with the batch, or because the output batch is full, unless a
row overflows. -/
theorem worked_probeCurrent {q : Probe} {result : Except JoinError Unit} {out' : Emission}
    (hj : j.Sound total) (h : p.Stands j source batches ending)
    (howes : j.Owes total out (p.pending j.build.length batches))
    (hwork : probeCurrent j.table j.store p out = (result, q, out')) :
    (result = .ok () ∧ Worked j total source batches ending p q out') ∨
      ∃ e, result = .error e ∧ j.Overflows total e := by
  obtain ⟨plan, supply, current, cursor⟩ := p
  obtain ⟨rfl, hawaits, hsuits, hcurrent, hwhole, hbroken⟩ := h
  cases current with
  | none =>
    cases hwork
    exact .inl ⟨rfl, ⟨rfl, hawaits, hsuits, nofun, hwhole, hbroken⟩, rfl, howes, fun _ => rfl⟩
  | some b =>
    obtain ⟨hb, hplaced⟩ := hcurrent b rfl
    simp only [probeCurrent] at hwork
    rcases Job.probeRows_of_owes hj hb hplaced howes with
      ⟨c, out₁, hrows, howes', hplaced', hphase, hend⟩ | ⟨e, c, out₁, hrows, hover⟩
    · rw [hrows] at hwork
      cases hwork
      refine .inl ⟨rfl, ⟨rfl, hawaits, hsuits, ?_, hwhole, ?_⟩, hphase, howes', ?_⟩
      · intro b' hb'
        cases hb'
        exact ⟨hb, hplaced'⟩
      · intro hending
        exact ⟨(hbroken hending).1, hphase.trans (hbroken hending).2⟩
      · intro hroom
        rw [pending, Option.map_some, Option.getD_some,
          Cursor.pending_of_le (hend.resolve_right hroom), List.nil_append]
    · rw [hrows] at hwork
      cases hwork
      exact .inr ⟨e, rfl, hover⟩

/-- Once the probe rows are done with, the build rows that were never matched are left, if the kind
of join keeps them. -/
theorem owed_nil (j : Job) (ledger : MatchLedger) : j.owed ledger [] =
    if j.kind.keepsBuild then NestedLoop.sweepRows j.build ledger.isMatched 0 else [] := by
  by_cases hkeep : j.kind.keepsBuild = true
  · rw [Job.owed, NestedLoop.remaining_nil hkeep, if_pos hkeep]
  · rw [if_neg hkeep, Job.owed, NestedLoop.remaining, if_neg hkeep]
    rfl

theorem left_afterInput {supply : Supply} {ledger : MatchLedger} (h : p.plan = j.plan)
    (hwhole : j.kind = j.plan.joinType) :
    left ⟨p.plan, supply, none, { p.cursor with phase := p.afterInput }⟩ j batches ledger =
      j.owed ledger [] := by
  rw [owed_nil, hwhole]
  unfold left afterInput
  rw [h]
  cases j.plan.joinType.keepsBuild <;> rfl

/-- When the probe rows break off and all those before are done with, everything left has been
written. -/
theorem length_of_broken (howes : j.Owes total out []) (hkeep : j.kind.keepsBuild = false)
    (hroom : ¬ j.plan.batchRows ≤ out.writer.rows) : total.length < j.plan.batchRows := by
  obtain ⟨⟨written, hall, -, hwritten⟩, -, -⟩ := howes
  have hnone : j.owed out.ledger [] = [] := by
    rw [owed_nil, hkeep]
    rfl
  rw [hnone, List.append_nil] at hall
  rw [← hall, ← hwritten.count]
  exact Nat.lt_of_not_le hroom

theorem afterInput_ne (p : Probe) : p.afterInput ≠ .probing := by
  unfold afterInput
  split <;> nofun

/-- The next batch is walked from its first row, and its rows are the next that are not done with. -/
theorem Stands.enter {supply : Supply} {source' : σ} {metrics metrics' : Metrics} {b : Batch}
    (h : p.Stands j source batches ending)
    (hfetch : p.supply.nextBatch source metrics = (.ok (some b), supply, source', metrics')) :
    ∃ rest, Stands ⟨p.plan, supply, some b, p.cursor.enterBatch⟩ j source' rest ending ∧
      pending ⟨p.plan, supply, some b, p.cursor.enterBatch⟩ j.build.length rest =
        (streamRows batches).map NestedLoop.fresh := by
  rcases Supply.nextBatch_of_awaits h.awaits hfetch with
    ⟨hnone, -⟩ | ⟨_, rest, hsome, hb, hrows, hstream, hsub, hawaits⟩
  · cases ending <;> cases hnone
  · cases hsome
    refine ⟨rest, ⟨h.plan, hawaits, fun b hb => h.suits b (hsub b hb), ?_, h.whole, h.broken⟩, ?_⟩
    · intro b' hb'
      cases hb'
      exact ⟨h.suits _ hb hrows, fun _ => rfl, nofun⟩
    · rw [pending, Option.map_some, Option.getD_some, Cursor.pending_of_unstarted rfl rfl, hstream,
        List.map_append]
      rfl

/-- The stage of the probe rows ends with the last of them, or because the output batch is full, unless
the output batch fails. -/
theorem probeInput_of_stands (metrics : Metrics) (hj : j.Sound total)
    (h : p.Stands j source batches ending) (hphase : p.cursor.phase = .probing)
    (howes : j.Owes total out (p.pending j.build.length batches)) :
    (∃ q source' metrics' out' batches', p.probeInput j.table j.store source metrics out =
        (.ok (), q, source', metrics', out') ∧ q.Stands j source' batches' ending ∧
      j.Tracks total out' (q.left j batches' out'.ledger) ∧
      (q.cursor.phase = .probing → j.plan.batchRows ≤ out'.writer.rows)) ∨
      ∃ e q source' metrics' out', p.probeInput j.table j.store source metrics out =
        (.error e, q, source', metrics', out') ∧ j.Fails total ending e := by
  -- on the batches as they are entered, with the rows of all others still to come
  fun_induction probeInput j.table j.store p source metrics out generalizing batches with
  | case1 p source metrics out e q out₁ hworked =>
    obtain ⟨⟨⟩, -⟩ | ⟨_, ⟨⟩, hover⟩ := worked_probeCurrent hj h howes hworked
    exact .inr ⟨e, q, source, metrics, out₁, rfl, .overflow hover⟩
  | case2 p source metrics out q out₁ hworked hfull =>
    obtain ⟨-, hq⟩ | ⟨_, ⟨⟩, -⟩ := worked_probeCurrent hj h howes hworked
    refine .inl ⟨q, source, metrics, out₁, batches, rfl, hq.stands, ?_, ?_⟩
    · rw [left, hq.phase, hphase]
      exact hq.owes
    · intro _
      rw [← hq.stands.plan]
      exact hfull
  | case3 p source metrics out q out₁ hworked hroom e supply source₁ metrics₁ hfetch =>
    obtain ⟨-, hq⟩ | ⟨_, ⟨⟩, -⟩ := worked_probeCurrent hj h howes hworked
    rw [hq.stands.plan] at hroom
    have howes' := hq.owes
    obtain ⟨herr, hnone, -⟩ | ⟨_, _, ⟨⟩, -⟩ := Supply.nextBatch_of_awaits hq.stands.awaits hfetch
    -- the probe rows break off before the output batch is full
    have hending : ending = some e := by
      cases ending with
      | none => cases herr
      | some e' =>
        cases herr
        rfl
    rw [hq.done hroom, hnone] at howes'
    refine .inr ⟨e, _, source₁, metrics₁, out₁, rfl, .broken hending ?_⟩
    exact length_of_broken howes' (hq.stands.broken (by rw [hending]; nofun)).1 hroom
  | case4 p source metrics out q out₁ hworked hroom supply source₁ metrics₁ hfetch =>
    obtain ⟨-, hq⟩ | ⟨_, ⟨⟩, -⟩ := worked_probeCurrent hj h howes hworked
    rw [hq.stands.plan] at hroom
    have howes' := hq.owes
    obtain ⟨hok, hnone, hawaits⟩ | ⟨_, _, ⟨⟩, -⟩ := Supply.nextBatch_of_awaits hq.stands.awaits hfetch
    -- all probe rows are done with, and unmatched build rows come next
    have hending : ending = none := by
      cases ending with
      | none => rfl
      | some e => cases hok
    subst hending
    rw [hq.done hroom, hnone] at howes'
    refine .inl ⟨_, _, _, out₁, [], rfl, ⟨hq.stands.plan, hawaits rfl, nofun, nofun, hq.stands.whole,
      fun hnot => absurd rfl hnot⟩, ?_, fun hnot => absurd hnot (afterInput_ne _)⟩
    rw [left_afterInput hq.stands.plan (hq.stands.whole rfl)]
    exact howes'
  | case5 p source metrics out q out₁ hworked hroom b supply source₁ metrics₁ hfetch =>
    rename_i _ entered ih
    obtain ⟨-, hq⟩ | ⟨_, ⟨⟩, -⟩ := worked_probeCurrent hj h howes hworked
    rw [hq.stands.plan] at hroom
    have howes' := hq.owes
    -- the walk goes on with the rows of the next batch
    obtain ⟨rest, hentered, hpending⟩ := hq.stands.enter hfetch
    rw [hq.done hroom, ← hpending] at howes'
    exact ih hentered (hq.phase.trans hphase) howes'

/-! ### Build rows that were never matched -/

theorem sweepRows_of_nextUnmatched? {build : List BatchRow} {ledger : MatchLedger} {slot free : Nat}
    (h : ledger.nextUnmatched? slot = some free) (hfree : free < build.length) :
    (NestedLoop.sweepRows build ledger.isMatched slot : List Joined) =
      ⟨some build[free], none⟩ :: NestedLoop.sweepRows build ledger.isMatched (free + 1) := by
  obtain ⟨hunmatched, hmarked⟩ := MatchLedger.nextUnmatched?_eq_some h
  rw [NestedLoop.sweepRows_skip (MatchLedger.bounds_of_nextUnmatched? h).1 (Nat.le_of_lt hfree)
    hmarked, NestedLoop.sweepRows_cons hfree hunmatched]

omit [BatchSource σ] in
/-- The stage of the build rows ends with the last of them, or because the output batch is full, unless
a row overflows. -/
theorem sweep_of_tracks {slot : Nat} {writer : RowWriter} {ledger : MatchLedger}
    (hj : j.Sound total) (h : j.Tracks total ⟨writer, ledger⟩
      (NestedLoop.sweepRows j.build ledger.isMatched slot)) :
    (∃ phase writer', sweep j.store ledger j.plan.batchRows slot writer = (.ok (), phase, writer') ∧
      (phase = .done ∧ j.Tracks total ⟨writer', ledger⟩ [] ∨ ∃ s, phase = .unmatched s ∧
        j.Tracks total ⟨writer', ledger⟩ (NestedLoop.sweepRows j.build ledger.isMatched s) ∧
        j.plan.batchRows ≤ writer'.rows)) ∨
      ∃ e phase writer', sweep j.store ledger j.plan.batchRows slot writer =
        (.error e, phase, writer') ∧ j.Overflows total e := by
  have hlength : ledger.length = j.build.length := h.serves.length
  fun_induction sweep j.store ledger j.plan.batchRows slot writer with
  | case1 slot writer hfull =>
    exact .inl ⟨_, writer, rfl, .inr ⟨slot, rfl, h, hfull⟩⟩
  | case2 slot writer hroom hfound =>
    have hmarked := MatchLedger.nextUnmatched?_eq_none hfound
    rw [NestedLoop.sweepRows_of_marked fun t hst ht => hmarked t hst (by omega)] at h
    exact .inl ⟨_, writer, rfl, .inl ⟨rfl, h⟩⟩
  | case3 slot writer hroom free hfound hbounds e hrow =>
    -- every slot stands for a row
    rw [h.serves.row free _ (List.getElem?_eq_getElem (by omega))] at hrow
    cases hrow
  | case4 slot writer hroom free hfound hbounds row hrow e writer₁ happend =>
    have hfree : free < j.build.length := by omega
    rw [h.serves.row free _ (List.getElem?_eq_getElem hfree)] at hrow
    cases hrow
    rw [sweepRows_of_nextUnmatched? hfound hfree] at h
    obtain ⟨⟨⟩, -⟩ | ⟨_, ⟨⟩, hover⟩ :=
      Job.append_of_tracks hj (Nat.lt_of_not_le hroom) h happend
    exact .inr ⟨_, _, writer₁, rfl, hover⟩
  | case5 slot writer hroom free hfound hbounds row hrow writer₁ happend ih =>
    have hfree : free < j.build.length := by omega
    rw [h.serves.row free _ (List.getElem?_eq_getElem hfree)] at hrow
    cases hrow
    rw [sweepRows_of_nextUnmatched? hfound hfree] at h
    obtain ⟨-, h'⟩ | ⟨_, ⟨⟩, -⟩ := Job.append_of_tracks hj (Nat.lt_of_not_le hroom) h happend
    exact ih h'

/-! ### Output batches -/

/-- The probe rows are worked on if there are any left. -/
theorem probeStage_of_stands (metrics : Metrics) (hj : j.Sound total)
    (h : p.Stands j source batches ending)
    (htracks : j.Tracks total out (p.left j batches out.ledger)) :
    (∃ q source' metrics' out' batches', p.probeStage j.table j.store source metrics out =
        (.ok (), q, source', metrics', out') ∧ q.Stands j source' batches' ending ∧
      j.Tracks total out' (q.left j batches' out'.ledger) ∧
      (q.cursor.phase = .probing → j.plan.batchRows ≤ out'.writer.rows)) ∨
      ∃ e q source' metrics' out', p.probeStage j.table j.store source metrics out =
        (.error e, q, source', metrics', out') ∧ j.Fails total ending e := by
  unfold probeStage
  split
  · next hphase =>
    rw [left, hphase] at htracks
    exact probeInput_of_stands metrics hj h hphase htracks
  · next hphase =>
    refine .inl ⟨p, source, metrics, out, batches, rfl, h, htracks, ?_⟩
    intro hnot
    rw [hphase] at hnot
    cases hnot
  · next hphase =>
    refine .inl ⟨p, source, metrics, out, batches, rfl, h, htracks, ?_⟩
    intro hnot
    rw [hphase] at hnot
    cases hnot

/-- Filling an output batch ends because it is full, or with the last row, unless it fails. -/
theorem fill_of_stands (metrics : Metrics) (hj : j.Sound total)
    (h : p.Stands j source batches ending)
    (htracks : j.Tracks total out (p.left j batches out.ledger)) :
    (∃ q source' metrics' out' batches', p.fill j.table j.store source metrics out =
        (.ok (), q, source', metrics', out') ∧ q.Stands j source' batches' ending ∧
      j.Tracks total out' (q.left j batches' out'.ledger) ∧
      (q.left j batches' out'.ledger = [] ∧ ending = none ∨ j.plan.batchRows ≤ out'.writer.rows)) ∨
      ∃ e q source' metrics' out', p.fill j.table j.store source metrics out =
        (.error e, q, source', metrics', out') ∧ j.Fails total ending e := by
  rcases probeStage_of_stands metrics hj h htracks with
    ⟨q, source', metrics', ⟨writer, ledger⟩, batches', hstage, hq, htracks', hfull⟩ |
    ⟨e, q, source', metrics', out', hstage, hfails⟩
  · simp only [fill, hstage]
    -- behind the probe rows nothing breaks off any more
    have hwhole : q.cursor.phase ≠ .probing → ending = none :=
      fun hphase => Classical.not_not.mp fun hending => hphase (hq.broken hending).2
    cases hphase : q.cursor.phase with
    | probing =>
      exact .inl ⟨q, source', metrics', _, batches', rfl, hq, htracks', .inr (hfull hphase)⟩
    | done =>
      refine .inl ⟨q, source', metrics', _, batches', rfl, hq, htracks', .inl ⟨?_, ?_⟩⟩
      · rw [left, hphase]
      · exact hwhole (by rw [hphase]; nofun)
    | unmatched slot =>
      have hending : ending = none := hwhole (by rw [hphase]; nofun)
      rw [left, hphase] at htracks'
      rcases sweep_of_tracks hj htracks' with
        ⟨phase, writer', hsweep, hend⟩ | ⟨e, phase, writer', hsweep, hover⟩
      · rw [← hq.plan] at hsweep
        simp only [hsweep]
        have hstands : Stands { q with cursor := { q.cursor with phase := phase } } j source'
            batches' ending := by
          refine ⟨hq.plan, hq.awaits, hq.suits, ?_, hq.whole, fun hnot => absurd hending hnot⟩
          intro b hb
          obtain ⟨hb, hplaced⟩ := hq.current b hb
          exact ⟨hb, hplaced.unstarted, hplaced.slot⟩
        refine .inl ⟨_, source', metrics', _, batches', rfl, hstands, ?_⟩
        rcases hend with ⟨rfl, hdone⟩ | ⟨s, rfl, hmore, hfull⟩
        · exact ⟨hdone, .inl ⟨rfl, hending⟩⟩
        · exact ⟨hmore, .inr hfull⟩
      · rw [← hq.plan] at hsweep
        simp only [hsweep]
        exact .inr ⟨e, _, source', metrics', _, rfl, .overflow hover⟩
  · simp only [fill, hstage]
    exact .inr ⟨e, q, source', metrics', out', rfl, hfails⟩

/-- The batch consists of the output rows of some joined rows. -/
structure Shows (o : OutputSchema) (batch : Batch) (rows : List Joined) : Prop where
  /-- The batch is what it claims to be. -/
  wellFormed : batch.WellFormed
  /-- The number of rows. -/
  rowCount : batch.rowCount = rows.length
  /-- The schema. -/
  schema : batch.schema = o.schema
  /-- The rows, in order. -/
  rows : batch.rows = rows.map o.rowOf

omit [BatchSource σ] in
/-- What has been written is collected, if it is anything. -/
theorem collect_of_holds {o : OutputSchema} {writer : RowWriter} {rows : List Joined}
    (h : writer.Holds o rows) (hfields : rows ≠ [] → o.schema.fields ≠ []) :
    (rows = [] ∧ collect writer = .ok none) ∨
      (rows ≠ [] ∧ ∃ batch, collect writer = .ok (some batch) ∧ Shows o batch rows) := by
  by_cases hnil : rows = []
  · refine .inl ⟨hnil, ?_⟩
    rw [collect, if_pos (by rw [h.count, hnil]; rfl)]
  · obtain ⟨batch, hfinish, hformed, hcount, hschema, hrows⟩ :=
      RowWriter.finish_of_holds h (hfields hnil)
    refine .inr ⟨hnil, batch, ?_, hformed, hcount, hschema, hrows⟩
    rw [collect, if_neg (by rw [h.count]; exact mt List.eq_nil_of_length_eq_zero hnil), hfinish]

/-- A probe between two output batches. -/
structure Ready (p : Probe) (j : Job) (ledger : MatchLedger) (source : σ) (batches : List Batch)
    (ending : Option JoinError) : Prop where
  /-- The parts of the probe. -/
  stands : p.Stands j source batches ending
  /-- The build rows of the slots. -/
  serves : j.store.Serves ledger j.build
  /-- Every slot has a bit. -/
  covered : ledger.Covered

/-- A new output batch has none of the rows that are left. -/
theorem Ready.tracks {ledger : MatchLedger} (h : p.Ready j ledger source batches ending) :
    j.Tracks (p.left j batches ledger) ⟨.ofSchema p.plan.output, ledger⟩ (p.left j batches ledger) := by
  refine ⟨⟨[], List.nil_append _, Nat.zero_le _, ?_⟩, h.serves, h.covered⟩
  rw [h.stands.plan]
  exact RowWriter.holds_ofSchema _

/-- **An output batch is the first of the rows that are left**, as many as it may have, and the
others are left then. When there are none, there is no output batch. An output batch that is not full
is the last one, and the probe rows have not broken off before it. -/
theorem nextOutput_of_ready {ledger : MatchLedger} (metrics : Metrics)
    (h : p.Ready j ledger source batches ending) (hj : j.Sound (p.left j batches ledger))
    (hrows : j.plan.batchRows ≠ 0)
    (hfields : p.left j batches ledger ≠ [] → j.plan.output.schema.fields ≠ []) :
    (∃ result q ledger' source' metrics' batches',
      p.nextOutput j.table j.store ledger source metrics =
        (result, q, ledger', source', metrics') ∧ q.Ready j ledger' source' batches' ending ∧
      q.left j batches' ledger' = (p.left j batches ledger).drop j.plan.batchRows ∧
      (ending = none ∨ j.plan.batchRows ≤ (p.left j batches ledger).length) ∧
      (p.left j batches ledger = [] ∧ result = .ok none ∨
        p.left j batches ledger ≠ [] ∧ ∃ batch, result = .ok (some batch) ∧
          Shows j.plan.output batch ((p.left j batches ledger).take j.plan.batchRows))) ∨
      ∃ e q ledger' source' metrics', p.nextOutput j.table j.store ledger source metrics =
        (.error e, q, ledger', source', metrics') ∧ j.Fails (p.left j batches ledger) ending e := by
  rw [nextOutput, if_neg (by rw [h.stands.plan]; exact hrows)]
  have hfilled := fill_of_stands metrics hj h.stands h.tracks
  generalize p.left j batches ledger = total at hj hfields hfilled ⊢
  rcases hfilled with
    ⟨q, source', metrics', ⟨writer, ledger'⟩, batches', hfill, hq, htracks', hend⟩ |
      ⟨e, q, source', metrics', out', hfill, hfails⟩
  · obtain ⟨⟨written, hsplit, hle, hwritten⟩, hserves, hcovered⟩ := htracks'
    -- the batch is full, or nothing is left
    have hcut : written = total.take j.plan.batchRows ∧
        q.left j batches' ledger' = total.drop j.plan.batchRows ∧
        (ending = none ∨ j.plan.batchRows ≤ total.length) := by
      rcases hend with ⟨hdone, hending⟩ | hfull
      · have hdone : q.left j batches' ledger' = [] := hdone
        have hall : written = total := by rw [← hsplit, hdone, List.append_nil]
        rw [hdone, ← hall, List.take_of_length_le hle, List.drop_eq_nil_of_le hle]
        exact ⟨rfl, rfl, .inl hending⟩
      · have hlength : written.length = j.plan.batchRows := by
          have hfull : j.plan.batchRows ≤ writer.rows := hfull
          have hcount : writer.rows = written.length := hwritten.count
          omega
        rw [← hsplit, ← hlength, List.take_left, List.drop_left, List.length_append]
        exact ⟨rfl, rfl, .inr (Nat.le_add_right _ _)⟩
    obtain ⟨rfl, hleft, hlength⟩ := hcut
    refine .inl ⟨collect writer, q, ledger', source', metrics', batches', by rw [hfill],
      ⟨hq, hserves, hcovered⟩, hleft, hlength, ?_⟩
    have htake : total.take j.plan.batchRows = [] ↔ total = [] := by
      rw [List.take_eq_nil_iff]
      exact ⟨fun h => h.resolve_left hrows, .inr⟩
    rcases collect_of_holds hwritten fun hne => hfields (mt htake.mpr hne) with
      ⟨hnil, hcollect⟩ | ⟨hne, hcollect⟩
    · exact .inl ⟨htake.mp hnil, hcollect⟩
    · exact .inr ⟨mt htake.mpr hne, hcollect⟩
  · exact .inr ⟨e, q, out'.ledger, source', metrics', by rw [hfill], hfails⟩

end Probe
end HashJoin
