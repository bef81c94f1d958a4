import HashJoin.Probe.Rows
import HashJoin.Proofs.BuildStore.Absorption
import HashJoin.Proofs.MatchLedger.Marking

/-!
# Rows by slot

The ledger leads from a slot to a reference, and the store from there to a row. Neither another
stored batch nor another linked row moves a row that can be reached already.

## Main definitions

* `BuildStore.Serves` — a ledger and a store that give back some rows by slot.

## Main results

* `serves_push`, `serves_append` — one more batch, and one more row.
-/

namespace HashJoin

namespace BuildStore

variable {store : BuildStore} {ledger ledger' : MatchLedger} {rows : List BatchRow}

/-- The slots of the ledger stand for some rows of the store. -/
structure Serves (store : BuildStore) (ledger : MatchLedger) (rows : List BatchRow) : Prop where
  /-- There is a slot for every row. -/
  length : ledger.length = rows.length
  /-- The slots are in the order of the rows. -/
  row : ∀ slot r, rows[slot]? = some r → store.slotRow ledger slot = .ok r

theorem slotRow_congr (h : ledger'.links = ledger.links) (slot : Nat) :
    store.slotRow ledger' slot = store.slotRow ledger slot := by
  rw [slotRow, slotRow, MatchLedger.rowRef?, h]
  rfl

theorem Serves.congr (h : store.Serves ledger rows) (hlinks : ledger'.links = ledger.links) :
    store.Serves ledger' rows := by
  refine ⟨?_, ?_⟩
  · rw [MatchLedger.length, hlinks]
    exact h.length
  · intro slot r hr
    rw [slotRow_congr hlinks]
    exact h.row slot r hr

theorem slotRow_eq_ok {slot : Nat} {r : BatchRow} (h : store.slotRow ledger slot = .ok r) :
    ∃ ref, ledger.rowRef? slot = some ref ∧ store.batch? ref.batch = some r.1 ∧ ref.row = r.2 ∧
      r.2 < r.1.rowCount := by
  unfold slotRow at h
  split at h
  · cases h
  · next ref href =>
    unfold row at h
    split at h
    · next batch hbatch =>
      split at h
      · next hlt =>
        cases h
        exact ⟨ref, href, hbatch, rfl, hlt⟩
      · cases h
    · cases h

theorem lt_of_slotRow {slot : Nat} {r : BatchRow} (h : store.slotRow ledger slot = .ok r) :
    r.2 < r.1.rowCount := by
  obtain ⟨_, -, -, -, hlt⟩ := slotRow_eq_ok h
  exact hlt

theorem slotRow_of_rowRef? {slot : Nat} {ref : RowRef} {batch : Batch}
    (href : ledger.rowRef? slot = some ref) (hbatch : store.batch? ref.batch = some batch)
    (hrow : ref.row < batch.rowCount) : store.slotRow ledger slot = .ok (batch, ref.row) := by
  simp only [slotRow, href, row, hbatch, if_pos hrow]

theorem batch?_push {index : Nat} {batch other : Batch} (h : store.batch? index = some batch) :
    (store.push other).batch? index = some batch := by
  have hlt : index < store.batches.size := (Array.getElem?_eq_some_iff.mp h).1
  rw [batch?, push, Array.getElem?_push_lt hlt]
  exact congrArg some (Array.getElem?_eq_some_iff.mp h).2

/-- Rows that are stored stay where they are when another batch is stored. -/
theorem serves_push (h : store.Serves ledger rows) (batch : Batch) :
    (store.push batch).Serves ledger rows := by
  refine ⟨h.length, ?_⟩
  intro slot r hr
  obtain ⟨ref, href, hbatch, hrow, hlt⟩ := slotRow_eq_ok (h.row slot r hr)
  rw [slotRow_of_rowRef? href (batch?_push hbatch) (by rw [hrow]; exact hlt), hrow]

/-- A ledger that links one more row. -/
theorem serves_append {ref : RowRef} {batch : Batch} (h : store.Serves ledger rows)
    (hbatch : store.batch? ref.batch = some batch) (hrow : ref.row < batch.rowCount) :
    store.Serves (ledger.append ref) (rows ++ [(batch, ref.row)]) := by
  refine ⟨?_, ?_⟩
  · rw [MatchLedger.length_append, h.length, List.length_append]
    rfl
  · intro slot r hr
    by_cases hlt : slot < rows.length
    · rw [List.getElem?_append_left hlt] at hr
      obtain ⟨ref', href, hbatch', hrow', hlt'⟩ := slotRow_eq_ok (h.row slot r hr)
      have hne : slot ≠ ledger.links.size := by
        have hlength : ledger.links.size = rows.length := h.length
        omega
      have hkept : (ledger.append ref).rowRef? slot = some ref' := by
        rw [MatchLedger.rowRef?, MatchLedger.links_append, Array.getElem?_push, if_neg hne]
        exact href
      rw [slotRow_of_rowRef? hkept hbatch' (by rw [hrow']; exact hlt'), hrow']
    · obtain rfl : slot = ledger.links.size := by
        have hslot := (List.getElem?_eq_some_iff.mp hr).1
        have hlength : ledger.links.size = rows.length := h.length
        rw [List.length_append, List.length_singleton] at hslot
        omega
      have hlength : ledger.links.size = rows.length := h.length
      rw [hlength, List.getElem?_concat_length] at hr
      cases hr
      refine slotRow_of_rowRef? ?_ hbatch hrow
      rw [MatchLedger.rowRef?, MatchLedger.links_append, Array.getElem?_push_size]

end BuildStore

end HashJoin
