import HashJoin.Metrics
import HashJoin.Proofs.Source.Delivery

/-!
# What the counters count

Batches are counted in pairs of counters, one for the batches and one for their rows. Both stay at the
greatest value of a counter when they have come there, so they tell of all batches that were counted,
as far as a counter goes.

## Main definitions

* `Counts` — a pair of counters tells of some batches.
* `Metrics.recordBuilds`, `Metrics.recordProbes` — some batches are counted, one by one.
* `Metrics.table` — the shape of the table, as the counters show it.

## Main results

* `counts_concat` — one more batch.
* `recordBuilds_eq`, `recordProbes_eq` — counting some batches changes one pair of counters.
-/

namespace HashJoin

/-! ### Pairs of counters -/

/-- A counter of batches and a counter of rows tell of some batches. -/
structure Counts (batchCount rowCount : Nat) (batches : List Batch) : Prop where
  /-- The number of the batches. -/
  number : batchCount = min batches.length wordMax
  /-- The number of their rows. -/
  rows : rowCount = min (streamRows batches).length wordMax

variable {n r : Nat} {batches more : List Batch}

theorem counts_nil : Counts 0 0 [] := ⟨rfl, rfl⟩

theorem Metrics.count_min (n amount : Nat) : count (min n wordMax) amount = min (n + amount) wordMax := by
  unfold count
  omega

/-- One more batch is counted by one, and by its rows. -/
theorem counts_concat (h : Counts n r batches) (b : Batch) :
    Counts (Metrics.count n 1) (Metrics.count r b.rowCount) (batches ++ [b]) := by
  refine ⟨?_, ?_⟩
  · rw [h.number, Metrics.count_min, List.length_append, List.length_singleton]
  · rw [h.rows, Metrics.count_min, streamRows_append, streamRows_cons, streamRows_nil,
      List.append_nil, List.length_append, length_members]

namespace Metrics

/-! ### Several batches -/

/-- Counts some build batches. -/
def recordBuilds (m : Metrics) (batches : List Batch) : Metrics :=
  batches.foldl (fun m b => m.recordBuild b.rowCount) m

/-- Counts some probe batches. -/
def recordProbes (m : Metrics) (batches : List Batch) : Metrics :=
  batches.foldl (fun m b => m.recordProbe b.rowCount) m

theorem recordBuilds_concat (m : Metrics) (batches : List Batch) (b : Batch) :
    m.recordBuilds (batches ++ [b]) = (m.recordBuilds batches).recordBuild b.rowCount :=
  List.foldl_append

/-- Counting build batches changes the counters of the build side, which then tell of those batches as
well. -/
theorem recordBuilds_eq (m : Metrics) (more : List Batch) : ∃ n r,
    m.recordBuilds more = { m with buildBatches := n, buildRows := r } ∧
      ∀ batches, Counts m.buildBatches m.buildRows batches → Counts n r (batches ++ more) := by
  induction more generalizing m with
  | nil => exact ⟨m.buildBatches, m.buildRows, rfl, fun batches h => by rwa [List.append_nil]⟩
  | cons b more ih =>
    obtain ⟨n, r, heq, hcounts⟩ := ih (m.recordBuild b.rowCount)
    refine ⟨n, r, heq, ?_⟩
    intro batches h
    rw [List.append_cons]
    exact hcounts _ (counts_concat h b)

/-- Counting probe batches changes the counters of the probe side, which then tell of those batches as
well. -/
theorem recordProbes_eq (m : Metrics) (more : List Batch) : ∃ n r,
    m.recordProbes more = { m with probeBatches := n, probeRows := r } ∧
      ∀ batches, Counts m.probeBatches m.probeRows batches → Counts n r (batches ++ more) := by
  induction more generalizing m with
  | nil => exact ⟨m.probeBatches, m.probeRows, rfl, fun batches h => by rwa [List.append_nil]⟩
  | cons b more ih =>
    obtain ⟨n, r, heq, hcounts⟩ := ih (m.recordProbe b.rowCount)
    refine ⟨n, r, heq, ?_⟩
    intro batches h
    rw [List.append_cons]
    exact hcounts _ (counts_concat h b)

theorem peakBytes_recordProbes (m : Metrics) (more : List Batch) :
    (m.recordProbes more).peakBytes = m.peakBytes := by
  obtain ⟨n, r, heq, -⟩ := m.recordProbes_eq more
  rw [heq]

/-! ### The table -/

/-- The shape of the table, as the counters show it. -/
def table (m : Metrics) : TableStats := ⟨m.buckets, m.entries, m.resizes, m.resizeTime⟩

theorem table_zero : zero.table = ⟨0, 0, 0, ⟨0, 0⟩⟩ := by decide

/-- Counting probe batches leaves what the counters show of the table. -/
theorem table_recordProbes (m : Metrics) (more : List Batch) : (m.recordProbes more).table = m.table := by
  obtain ⟨n, r, heq, -⟩ := m.recordProbes_eq more
  rw [heq]
  rfl

/-- The counters show the shape of a table that they have taken over. -/
theorem table_recordTable (m : Metrics) (t : SlotTable) : (m.recordTable t.stats).table = t.stats := by
  have htime : resizeTime (m.recordTable t.stats) = ⟨0, 0⟩ := by
    simp [resizeTime, recordTable, SlotTable.stats, Duration.microseconds]
  rw [table, htime]
  rfl

end Metrics
end HashJoin
