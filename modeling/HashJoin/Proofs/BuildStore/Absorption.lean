import HashJoin.BuildStore

/-!
# Storing batches

A batch that is stored was accepted and paid for, and comes behind the others. Otherwise there is no
new store at all, so a refusal changes nothing.

## Main results

* `absorb_eq_ok_iff` — when a batch is stored, and what the store is then.
-/

namespace HashJoin
namespace BuildStore

variable {s s' : BuildStore} {batch : Batch} {budget budget' : Budget} {index : Nat}

/-- A batch passes the checks if it is dense, small enough and of the schema of the store. -/
theorem inspect_eq_ok_iff : s.inspect batch = .ok () ↔ batch.isDense = true ∧
    batch.rowCount ≤ maxBatchRows ∧ ∀ schema, s.schema = some schema → batch.schema = schema := by
  have hconforms : ∀ schema, batch.conforms schema = true ↔ batch.schema = schema :=
    fun schema => beq_iff_eq
  unfold inspect
  cases hdense : batch.isDense with
  | false => simp
  | true =>
    by_cases hsize : maxBatchRows < batch.rowCount
    · simp [hsize, Nat.not_le_of_lt hsize]
    · cases hschema : s.schema with
      | none => simp [hsize, Nat.le_of_not_lt hsize]
      | some schema =>
        by_cases hsame : batch.schema = schema
        · simp [hsize, Nat.le_of_not_lt hsize, (hconforms schema).mpr hsame, hsame]
        · simp [hsize, mt (hconforms schema).mp hsame, hsame]

/-- The checks say what is wrong with a batch. -/
theorem inspect_eq_error {e : JoinError} (h : s.inspect batch = .error e) :
    (batch.isDense = false ∧ e = .unsupported .build .selection) ∨
      (maxBatchRows < batch.rowCount ∧ e = .unsupported .build (.batchRows batch.rowCount)) ∨
      ∃ expected, s.schema = some expected ∧ batch.schema ≠ expected ∧
        e = .schemaChanged .build expected batch.schema := by
  unfold inspect at h
  split at h
  · next hdense =>
    cases h
    exact .inl ⟨by simpa using hdense, rfl⟩
  · split at h
    · next hsize =>
      cases h
      exact .inr (.inl ⟨hsize, rfl⟩)
    · split at h
      · cases h
      · next expected hschema =>
        split at h
        · cases h
        · next hconforms =>
          cases h
          refine .inr (.inr ⟨expected, hschema, ?_, rfl⟩)
          intro hsame
          rw [← hsame] at hconforms
          exact hconforms (beq_self_eq_true _)

/-- The store with one more batch. -/
def push (s : BuildStore) (batch : Batch) : BuildStore where
  schema := s.schema.or (some batch.schema)
  batches := s.batches.push batch
  rowCount := s.rowCount + batch.rowCount
  reservedBytes := s.reservedBytes + batch.memorySize

/-- A batch that passes both checks is stored if its bytes are granted. -/
theorem absorb_eq (hok : s.inspect batch = .ok ()) (hindex : s.nextIndex < maxBatches) :
    s.absorb batch budget = ((budget.reserve batch.memorySize).mapError (.ofRefusal .batch)).map
      fun granted => (s.nextIndex, s.push batch, granted) := by
  rw [absorb, hok]
  simp only [bind, Except.bind]
  rw [if_neg (Nat.not_le_of_lt hindex)]
  cases budget.reserve batch.memorySize with
  | error refusal => rfl
  | ok granted => rfl

/-- A batch is stored if it passes both checks and its bytes are granted. -/
theorem absorb_eq_ok_iff :
    s.absorb batch budget = .ok (index, s', budget') ↔
      s.inspect batch = .ok () ∧ s.nextIndex < maxBatches ∧
        budget.reserve batch.memorySize = .ok budget' ∧ index = s.nextIndex ∧
          s' = s.push batch := by
  constructor
  · intro h
    cases hok : s.inspect batch with
    | error e =>
      rw [absorb, hok] at h
      cases h
    | ok _ =>
      by_cases hindex : s.nextIndex < maxBatches
      · rw [absorb_eq hok hindex] at h
        cases hres : budget.reserve batch.memorySize with
        | error refusal =>
          rw [hres] at h
          cases h
        | ok granted =>
          rw [hres] at h
          cases h
          exact ⟨rfl, hindex, rfl, rfl, rfl⟩
      · rw [absorb, hok, if_pos (Nat.le_of_not_lt hindex)] at h
        cases h
  · rintro ⟨hok, hindex, hres, rfl, rfl⟩
    rw [absorb_eq hok hindex, hres]
    rfl

end BuildStore
end HashJoin
