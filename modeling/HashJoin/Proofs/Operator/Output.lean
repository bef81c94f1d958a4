import HashJoin.Proofs.Operator.Frames
import HashJoin.Proofs.Probe.Output

/-!
# The output of an operator

An operator that is probing has some rows left to make. Pulling it again and again shows them, cut
into full batches of which only the last may be smaller, and then its end, for good. If the probe rows
break off, full batches are shown and then the failure, for good.

## Main definitions

* `Operator.Owing` — an operator that has some rows left to make.
* `Operator.Shown` — what a pull of such an operator shows.
* `shownBatches` — what pulls show that each report a batch.

## Main results

* `next_of_owing` — a pull shows the next batch, the end or a failure.
* `shown_of_start` — the first pull shows the first output at once.
* `shown_pieces` — a number of pulls that each show a batch.
* `shown_of_owing` — all pulls, when the probe rows come to their end.
* `shown_of_broken` — all pulls, when the probe rows break off.
-/

namespace HashJoin

/-- What pulls show that report some batches; the first report says that the schema is new, unless a
batch was reported before. -/
def shownBatches (announced : Bool) : List Batch → List (Pulled × Option Batch)
  | [] => []
  | b :: batches =>
    (if announced then .batch else .newSchema, some b) :: shownBatches true batches

namespace Operator

open Probe

variable {P B : Type} [BatchSource P] [BatchSource B]

/-- The report and the batch of each of a number of pulls. -/
def shown (n : Nat) (op : Operator P B) : List (Pulled × Option Batch) :=
  (pulls n op).1.map fun seen => (seen.report, seen.batch)

theorem shown_succ (n : Nat) (op : Operator P B) :
    shown (n + 1) op = (op.next.1, op.next.2.current) :: shown n op.next.2 := rfl

/-- The operator is probing, and some rows are left to make. -/
def Owing (op : Operator P B) (j : Job) (total : List Joined) (ending : Option JoinError) : Prop :=
  ∃ p batches, op.stage = .probing p ∧ op.side.table = j.table ∧ op.side.store = j.store ∧
    p.Ready j op.side.ledger op.probe batches ending ∧ p.left j batches op.side.ledger = total

variable {op : Operator P B} {j : Job} {total : List Joined} {ending : Option JoinError}

omit [BatchSource P] [BatchSource B] in
theorem current_release_of_none (h : op.current = none) : op.release.current = none := by
  unfold release
  split
  · exact h
  · rfl

/-- A pull of an operator that is probing reports what came of the next output batch. -/
theorem next_of_nextOutput {p q : Probe} {result : Except JoinError (Option Batch)}
    {ledger : MatchLedger} {source : P} {metrics : Metrics} (hstage : op.stage = .probing p)
    (h : p.nextOutput op.side.table op.side.store op.side.ledger op.probe op.metrics =
      (result, q, ledger, source, metrics)) :
    op.next = (resume { op with current := none } q ⟨op.side.table, ledger, op.side.store⟩ source
      metrics).deliver result := by
  obtain ⟨config, probe, build, stage, budget, side, outputSchema, current, failure, old, _⟩ := op
  obtain rfl : stage = .probing p := hstage
  simp only [next, pullOutput, h]
  rfl

/-- What a pull of an operator shows that has some rows left to make. -/
inductive Shown (op : Operator P B) (j : Job) (total : List Joined) (ending : Option JoinError) : Prop
  /-- The next batch of these rows. -/
  | batch (batch : Batch) (hsome : total ≠ [])
      (hlength : ending = none ∨ j.plan.batchRows ≤ total.length)
      (hreport : op.next.1 = if op.announced then .batch else .newSchema)
      (hcurrent : op.next.2.current = some batch) (hannounced : op.next.2.announced = true)
      (hshows : Shows j.plan.output batch (total.take j.plan.batchRows))
      (howing : op.next.2.Owing j (total.drop j.plan.batchRows) ending)
      (hconfig : op.next.2.config = op.config) (hfailure : op.next.2.failure = op.failure)
      (hschema : op.next.2.outputSchema = op.outputSchema)
  /-- The end. -/
  | ended (hnone : total = []) (hending : ending = none) (hreport : op.next.1 = .ended)
      (hcurrent : op.next.2.current = none) (hstage : op.next.2.stage = .done)
      (hfailure : op.next.2.failure = op.failure)
      (hschema : op.next.2.outputSchema = op.outputSchema)
  /-- A failure. -/
  | failed (e : JoinError) (hfails : j.Fails total ending e) (hreport : op.next.1 = .failed)
      (hcurrent : op.next.2.current = none) (hstage : op.next.2.stage = .failed)
      (hfailure : op.next.2.failure = some e) (hschema : op.next.2.outputSchema = op.outputSchema)

/-- A pull shows the next batch of the rows that are left, or the end if there are none, unless the
output batch fails. -/
theorem next_of_owing (h : op.Owing j total ending) (hj : j.Sound total)
    (hrows : j.plan.batchRows ≠ 0) (hfields : total ≠ [] → j.plan.output.schema.fields ≠ []) :
    op.Shown j total ending := by
  obtain ⟨p, batches, hstage, htable, hstore, hready, rfl⟩ := h
  rcases nextOutput_of_ready op.metrics hready hj hrows hfields with
    ⟨result, q, ledger', source', metrics', batches', houtput, hready', hleft, hlength, hend⟩ |
    ⟨e, q, ledger', source', metrics', houtput, hfails⟩
  · rw [← htable, ← hstore] at houtput
    have hnext := next_of_nextOutput hstage houtput
    rcases hend with ⟨hnil, rfl⟩ | ⟨hsome, batch, rfl, hshows⟩
    · have hending : ending = none := by
        rcases hlength with hending | hle
        · exact hending
        · rw [hnil, List.length_nil] at hle
          exact absurd (Nat.le_zero.mp hle) hrows
      refine .ended hnil hending (by rw [hnext]; rfl) ?_ ?_ ?_ ?_
      · rw [hnext, deliver, finish, current_tearDown]
        exact current_release_of_none rfl
      · rw [hnext, deliver, finish, stage_tearDown]
      · rw [hnext, deliver, finish, failure_tearDown]
        rfl
      · rw [hnext, deliver, finish, outputSchema_tearDown]
        rfl
    · refine .batch batch hsome hlength (by rw [hnext]; rfl) (by rw [hnext]; rfl)
        (by rw [hnext]; rfl) hshows ?_ (by rw [hnext]; rfl) (by rw [hnext]; rfl) (by rw [hnext]; rfl)
      rw [hnext]
      exact ⟨q, batches', rfl, htable, hstore, hready', hleft⟩
  · rw [← htable, ← hstore] at houtput
    have hnext := next_of_nextOutput hstage houtput
    refine .failed e hfails (by rw [hnext]; rfl) ?_ ?_ ?_ ?_
    · rw [hnext, deliver, fail, current_tearDown]
      exact current_release_of_none rfl
    · rw [hnext, deliver, fail, stage_tearDown]
    · rw [hnext, deliver, fail, failure_tearDown]
    · rw [hnext, deliver, fail, outputSchema_tearDown]
      rfl

/-- Pulls show of a new operator what they show of it once everything is ready. -/
theorem pulls_of_start {op' : Operator P B} (hnew : op.stage = .unstarted)
    (hstart : op.start = (.ok (), op')) (hcurrent : op'.current = none)
    (hstage : op'.stage = .done ∨ ∃ p, op'.stage = .probing p) (n : Nat) :
    pulls (n + 1) op = pulls (n + 1) op' := by
  rw [pulls_succ, pulls_succ, next_of_start hnew hstart, showFirst_eq_next hcurrent hstage]

theorem shown_of_start {op' : Operator P B} (hnew : op.stage = .unstarted)
    (hstart : op.start = (.ok (), op')) (hcurrent : op'.current = none)
    (hstage : op'.stage = .done ∨ ∃ p, op'.stage = .probing p) (n : Nat) :
    op.shown n = op'.shown n := by
  cases n with
  | zero => rfl
  | succ n => rw [shown, shown, pulls_of_start hnew hstart hcurrent hstage]

/-- An operator that has ended stays as it is. -/
theorem shown_of_done (h : op.stage = .done) (hcurrent : op.current = none) (n : Nat) :
    op.shown n = List.replicate n (.ended, none) := by
  have hnext : op.next = (.ended, op) := by
    rw [next, h]
  induction n with
  | zero => rfl
  | succ n ih => rw [shown_succ, hnext, ih, hcurrent, List.replicate_succ]

/-- An operator that has failed stays as it is. -/
theorem shown_of_failed (h : op.stage = .failed) (hcurrent : op.current = none) (n : Nat) :
    op.shown n = List.replicate n (.failed, none) := by
  have hnext : op.next = (.failed, op) := by
    rw [next, h]
  induction n with
  | zero => rfl
  | succ n ih => rw [shown_succ, hnext, ih, hcurrent, List.replicate_succ]

theorem sound_drop (hj : j.Sound total) (n : Nat) : j.Sound (total.drop n) :=
  ⟨hj.kind, hj.table, hj.bare, hj.formed, fun r hr => hj.rows r (List.mem_of_mem_drop hr)⟩

/-- A number of pulls show as many batches, if there are rows for each of them and none overflows.
The rows behind them are left to be made. -/
theorem shown_pieces {k : Nat} (hrows : 0 < j.plan.batchRows) (h : op.Owing j total ending)
    (hj : j.Sound total)
    (hpayload : ∀ i, PayloadsFit ((total.drop (i * j.plan.batchRows)).take j.plan.batchRows))
    (hfields : total ≠ [] → j.plan.output.schema.fields ≠ [])
    (hmore : ∀ i < k, i * j.plan.batchRows < total.length ∧
      (ending = none ∨ (i + 1) * j.plan.batchRows ≤ total.length)) :
    ∃ batches : List Batch, batches.length = k ∧
      batches.flatMap Batch.rows = (total.take (k * j.plan.batchRows)).map j.plan.output.rowOf ∧
      (∀ i batch, batches[i]? = some batch → Shows j.plan.output batch
        ((total.drop (i * j.plan.batchRows)).take j.plan.batchRows)) ∧
      (pulls k op).2.Owing j (total.drop (k * j.plan.batchRows)) ending ∧
      ∀ n, op.shown (k + n) = shownBatches op.announced batches ++ (pulls k op).2.shown n := by
  induction k generalizing op total with
  | zero =>
    refine ⟨[], rfl, ?_, nofun, ?_, ?_⟩
    · rw [Nat.zero_mul, List.take_zero]
      rfl
    · rw [Nat.zero_mul, List.drop_zero]
      exact h
    · intro n
      rw [Nat.zero_add]
      rfl
  | succ k ih =>
    obtain ⟨hsome, hlong⟩ := hmore 0 (Nat.succ_pos k)
    have hroom : PayloadsFit (total.take j.plan.batchRows) := by simpa using hpayload 0
    -- one pull shows the first batch, and owes what comes behind it
    cases next_of_owing h hj (Nat.ne_of_gt hrows) hfields with
    | ended hnone =>
      rw [hnone, List.length_nil] at hsome
      exact absurd hsome (Nat.not_lt_zero _)
    | failed e hfails =>
      cases hfails with
      | overflow hover => exact absurd hroom hover.rows
      | broken hending hshort =>
        rcases hlong with hnone | hle
        · rw [hnone] at hending
          cases hending
        · omega
    | batch batch _ _ hreport hcurrent hannounced hshows howing =>
      have hnext : ∀ i, total.drop ((i + 1) * j.plan.batchRows) =
          (total.drop j.plan.batchRows).drop (i * j.plan.batchRows) := by
        intro i
        rw [List.drop_drop, Nat.succ_mul, Nat.add_comm]
      have hrest : ∀ i < k, i * j.plan.batchRows < (total.drop j.plan.batchRows).length ∧
          (ending = none ∨ (i + 1) * j.plan.batchRows ≤ (total.drop j.plan.batchRows).length) := by
        intro i hi
        obtain ⟨hbegun, hfull⟩ := hmore (i + 1) (Nat.succ_lt_succ hi)
        rw [Nat.succ_mul] at hbegun hfull
        rw [List.length_drop]
        exact ⟨Nat.lt_sub_of_add_lt hbegun, hfull.imp_right Nat.le_sub_of_add_le⟩
      obtain ⟨batches, hlength, hconcat, hall, howing', hshown⟩ := ih howing (sound_drop hj _)
        (fun i => by rw [← hnext]; exact hpayload (i + 1))
        (fun hne => hfields (mt (fun hnil => by rw [hnil, List.drop_nil]) hne)) hrest
      refine ⟨batch :: batches, congrArg (· + 1) hlength, ?_, ?_, ?_, ?_⟩
      · rw [List.flatMap_cons, hconcat, hshows.rows, ← List.map_append, Nat.succ_mul, Nat.add_comm,
          List.take_add]
      · intro i b hb
        cases i with
        | zero =>
          cases hb
          rw [Nat.zero_mul, List.drop_zero]
          exact hshows
        | succ i =>
          rw [hnext]
          exact hall i b hb
      · rw [hnext]
        exact howing'
      · intro n
        rw [Nat.succ_add, shown_succ, hshown, hreport, hcurrent, hannounced]
        rfl

/-- As many pieces as are begun hold all rows. -/
theorem length_le_pieces (rows : Nat) {size : Nat} (hsize : 0 < size) :
    rows ≤ (rows + size - 1) / size * size := by
  have hmod := Nat.mod_lt (rows + size - 1) hsize
  have hdiv := Nat.div_add_mod (rows + size - 1) size
  rw [Nat.mul_comm] at hdiv
  omega

/-- Every piece that is begun has a row. -/
theorem lt_of_piece {rows size i : Nat} (hsize : 0 < size) (hi : i < (rows + size - 1) / size) :
    i * size < rows := by
  have hle := (Nat.le_div_iff_mul_le hsize).mp hi
  rw [Nat.succ_mul] at hle
  omega

/-- Pulls show the rows that are left, cut into full batches, and then the end. -/
theorem shown_of_owing (hrows : 0 < j.plan.batchRows) (h : op.Owing j total none)
    (hj : j.Sound total)
    (hpayload : ∀ i, PayloadsFit ((total.drop (i * j.plan.batchRows)).take j.plan.batchRows))
    (hfields : total ≠ [] → j.plan.output.schema.fields ≠ []) :
    ∃ batches : List Batch,
      batches.length = (total.length + j.plan.batchRows - 1) / j.plan.batchRows ∧
      batches.flatMap Batch.rows = total.map j.plan.output.rowOf ∧
      (∀ i batch, batches[i]? = some batch → Shows j.plan.output batch
        ((total.drop (i * j.plan.batchRows)).take j.plan.batchRows)) ∧
      ∀ n, op.shown (batches.length + n) =
        shownBatches op.announced batches ++ List.replicate n (.ended, none) := by
  have hall := length_le_pieces total.length hrows
  obtain ⟨batches, hlength, hconcat, hshows, howing, hshown⟩ := shown_pieces hrows h hj hpayload
    hfields fun i hi => ⟨lt_of_piece hrows hi, .inl rfl⟩
  rw [List.take_of_length_le hall] at hconcat
  rw [List.drop_eq_nil_of_le hall] at howing
  refine ⟨batches, hlength, hconcat, hshows, ?_⟩
  intro n
  rw [hlength, hshown]
  -- nothing is left, so the next pull shows the end
  have hnil : j.Sound [] := ⟨hj.kind, hj.table, hj.bare, hj.formed, nofun⟩
  cases next_of_owing howing hnil (Nat.ne_of_gt hrows) nofun with
  | batch _ hsome => exact absurd rfl hsome
  | failed e hfails =>
    cases hfails with
    | overflow hover =>
      refine absurd ?_ hover.rows
      rw [List.take_nil]
      exact (hpayload 0).initial (List.nil_prefix)
    | broken hending => cases hending
  | ended _ _ hreport hcurrent hdone =>
    cases n with
    | zero => rfl
    | succ n =>
      rw [shown_succ, hreport, hcurrent, shown_of_done hdone hcurrent, List.replicate_succ]

/-- Pulls show the full batches of the rows that are left before the probe rows break off, and then the
failure. -/
theorem shown_of_broken {cause : JoinError} (hrows : 0 < j.plan.batchRows)
    (h : op.Owing j total (some cause)) (hj : j.Sound total)
    (hpayload : ∀ i, PayloadsFit ((total.drop (i * j.plan.batchRows)).take j.plan.batchRows))
    (hfields : total ≠ [] → j.plan.output.schema.fields ≠ []) :
    ∃ batches : List Batch,
      batches.length = total.length / j.plan.batchRows ∧
      batches.flatMap Batch.rows =
        (total.take (total.length / j.plan.batchRows * j.plan.batchRows)).map j.plan.output.rowOf ∧
      (∀ i batch, batches[i]? = some batch → Shows j.plan.output batch
        ((total.drop (i * j.plan.batchRows)).take j.plan.batchRows)) ∧
      (∀ n, op.shown (batches.length + n) =
        shownBatches op.announced batches ++ List.replicate n (.failed, none)) ∧
      (pulls (batches.length + 1) op).2.failure = some cause := by
  have hfull : ∀ i < total.length / j.plan.batchRows, (i + 1) * j.plan.batchRows ≤ total.length :=
    fun i hi => (Nat.le_div_iff_mul_le hrows).mp hi
  obtain ⟨batches, hlength, hconcat, hshows, howing, hshown⟩ := shown_pieces hrows h hj hpayload
    hfields fun i hi => by
      refine ⟨?_, .inr (hfull i hi)⟩
      have hend := hfull i hi
      rw [Nat.succ_mul] at hend
      omega
  -- what is left does not fill a batch, so the next pull fails
  have hshort : (total.drop (total.length / j.plan.batchRows * j.plan.batchRows)).length <
      j.plan.batchRows := by
    have hmod := Nat.mod_lt total.length hrows
    have hdiv := Nat.div_add_mod total.length j.plan.batchRows
    rw [Nat.mul_comm] at hdiv
    rw [List.length_drop]
    omega
  have hleft : total.drop (total.length / j.plan.batchRows * j.plan.batchRows) ≠ [] →
      j.plan.output.schema.fields ≠ [] :=
    fun hne => hfields (mt (fun hnil => by rw [hnil, List.drop_nil]) hne)
  refine ⟨batches, hlength, hconcat, hshows, ?_⟩
  rw [hlength, pulls_concat]
  cases next_of_owing howing (sound_drop hj _) (Nat.ne_of_gt hrows) hleft with
  | batch _ _ hmore =>
    rcases hmore with hnone | hle
    · cases hnone
    · exact absurd hle (Nat.not_le_of_lt hshort)
  | ended _ hending => cases hending
  | failed e hfails hreport hcurrent hfailed hfailure =>
    cases hfails with
    | overflow hover => exact absurd (hpayload _) hover.rows
    | broken hending =>
      refine ⟨?_, hfailure.trans hending.symm⟩
      intro n
      rw [hshown]
      cases n with
      | zero => rfl
      | succ n =>
        rw [shown_succ, hreport, hcurrent, shown_of_failed hfailed hcurrent, List.replicate_succ]

end Operator
end HashJoin
