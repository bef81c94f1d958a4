import HashJoin.Metrics
import HashJoin.Source

/-!
# The supply of probe batches

The first probe batch is pulled before the build side is filled, and waits. The others are pulled
when they are needed. Batches without rows are passed over; one with a selection, or with another
schema than the first, ends the join.

## Main definitions

* `Supply`, `Supply.fetch`, `Supply.nextBatch`.
* `Supply.batchesLeft` — a bound on the batches still to come.

## Main results

* `batchesLeft_of_fetch`, `batchesLeft_of_nextBatch` — every batch lowers that bound.
-/

namespace HashJoin

/-- What is known of the probe batches still to come. -/
structure Supply where
  /-- The schema of the batches. -/
  schema : Option Schema
  /-- A batch that has been pulled in advance. -/
  pending : Option Batch
  /-- Whether the source has ended. -/
  exhausted : Bool

namespace Supply

variable {σ : Type} [BatchSource σ]

/-- A bound on the batches still to come. -/
def batchesLeft (s : Supply) (source : σ) : Nat :=
  BatchSource.pullsLeft source + if s.pending.isSome then 1 else 0

/-- The next batch, whatever it is like. -/
def fetch (s : Supply) (source : σ) : Except JoinError (Option Batch) × Supply × σ :=
  match s.pending with
  | some batch => (.ok (some batch), { s with pending := none }, source)
  | none =>
    if s.exhausted then (.ok none, s, source)
    else match BatchSource.pull .probe source with
      | (.error e, source) => (.error e, s, source)
      | (.ok none, source) => (.ok none, { s with exhausted := true }, source)
      | (.ok (some batch), source) => (.ok (some batch), s, source)

theorem batchesLeft_of_fetch {s s' : Supply} {source source' : σ} {batch : Batch}
    (h : s.fetch source = (.ok (some batch), s', source')) :
    s'.batchesLeft source' < s.batchesLeft source := by
  unfold fetch at h
  split at h
  · next pending =>
    cases h
    simp [batchesLeft, pending]
  · next pending =>
    split at h
    · simp at h
    · split at h
      · simp at h
      · simp at h
      · next pulled =>
        cases h
        simpa [batchesLeft, pending] using BatchSource.pullsLeft_of_pull pulled

/-- Accepts a batch of the expected schema, and says why another cannot be probed with. The first
batch fixes the schema if nothing else has. -/
def inspect (s : Supply) (batch : Batch) : Except JoinError Supply :=
  if !batch.isDense then .error (.unsupported .probe .selection)
  else match s.schema with
    | none => .ok { s with schema := some batch.schema }
    | some expected =>
      if batch.conforms expected then .ok s
      else .error (.schemaChanged .probe expected batch.schema)

/-- The next batch with rows. -/
def nextBatch (s : Supply) (source : σ) (metrics : Metrics) :
    Except JoinError (Option Batch) × Supply × σ × Metrics :=
  match fetched : s.fetch source with
  | (.error e, s, source) => (.error e, s, source, metrics)
  | (.ok none, s, source) => (.ok none, s, source, metrics)
  | (.ok (some batch), rest, source') =>
    have := batchesLeft_of_fetch fetched
    if batch.rowCount = 0 then rest.nextBatch source' metrics
    else match rest.inspect batch with
      | .error e => (.error e, rest, source', metrics)
      | .ok admitted =>
        (.ok (some batch), admitted, source', metrics.recordProbe batch.rowCount)
  termination_by s.batchesLeft source

theorem pending_of_inspect {s s' : Supply} {batch : Batch} (h : s.inspect batch = .ok s') :
    s'.pending = s.pending := by
  unfold inspect at h
  split at h
  · simp at h
  · split at h
    · cases h; rfl
    · split at h
      · cases h; rfl
      · simp at h

theorem batchesLeft_of_nextBatch {s s' : Supply} {source source' : σ} {metrics metrics' : Metrics}
    {batch : Batch} (h : s.nextBatch source metrics = (.ok (some batch), s', source', metrics')) :
    s'.batchesLeft source' < s.batchesLeft source := by
  fun_induction s.nextBatch source metrics with
  | case1 => simp at h
  | case2 => simp at h
  | case3 _ _ _ _ _ _ lt _ ih => exact Nat.lt_trans (ih h) lt
  | case4 => simp at h
  | case5 _ _ _ _ _ _ lt _ _ admitted =>
    cases h
    simpa [batchesLeft, pending_of_inspect admitted] using lt

end Supply

end HashJoin
