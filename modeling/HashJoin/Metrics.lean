import HashJoin.SlotTable

/-!
# Metrics

Counters of one join. Each is a 64-bit counter that stays at its greatest value.

## Main definitions

* `Metrics`, `Metrics.zero`.
* `Metrics.recordBuild`, `Metrics.recordProbe`, `Metrics.recordOutput` — one more batch of rows.
* `Metrics.recordTable` — the shape of the finished table.
-/

namespace HashJoin

/-- The counters of one join. -/
structure Metrics where
  /-- Buckets of the table. -/
  buckets : Nat
  /-- Slots of the table. -/
  entries : Nat
  /-- Doublings of the table. -/
  resizes : Nat
  /-- Microseconds that the doublings took. -/
  resizeMicroseconds : Nat
  /-- Build batches with rows. -/
  buildBatches : Nat
  /-- Build rows. -/
  buildRows : Nat
  /-- Probe batches with rows. -/
  probeBatches : Nat
  /-- Probe rows. -/
  probeRows : Nat
  /-- Output batches. -/
  outputBatches : Nat
  /-- Output rows. -/
  outputRows : Nat
  /-- The most bytes that were reserved at a time. -/
  peakBytes : Nat
  deriving DecidableEq

namespace Metrics

/-- The counters before anything has happened. -/
def zero : Metrics := ⟨0, 0, 0, 0, 0, 0, 0, 0, 0, 0, 0⟩

/-- The sum of a counter and an amount, as far as a 64-bit counter goes. -/
def count (counter amount : Nat) : Nat := min (counter + amount) wordMax

/-- Counts a build batch. -/
def recordBuild (m : Metrics) (rows : Nat) : Metrics :=
  { m with buildBatches := count m.buildBatches 1, buildRows := count m.buildRows rows }

/-- Counts a probe batch. -/
def recordProbe (m : Metrics) (rows : Nat) : Metrics :=
  { m with probeBatches := count m.probeBatches 1, probeRows := count m.probeRows rows }

/-- Counts an output batch. -/
def recordOutput (m : Metrics) (rows : Nat) : Metrics :=
  { m with outputBatches := count m.outputBatches 1, outputRows := count m.outputRows rows }

/-- Takes over the shape of a table. -/
def recordTable (m : Metrics) (stats : TableStats) : Metrics :=
  { m with
    buckets := stats.buckets
    entries := stats.entries
    resizes := stats.resizes
    resizeMicroseconds := stats.resizeTime.microseconds }

/-- Takes over the peak of a budget. -/
def recordPeak (m : Metrics) (budget : Budget) : Metrics := { m with peakBytes := budget.peak }

/-- The time that the doublings took. -/
def resizeTime (m : Metrics) : Duration :=
  ⟨m.resizeMicroseconds / 1000000, m.resizeMicroseconds % 1000000 * 1000⟩

end Metrics

end HashJoin
