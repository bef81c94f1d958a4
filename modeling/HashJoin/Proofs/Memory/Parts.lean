import HashJoin.BuildSide
import HashJoin.Proofs.BuildStore.Absorption
import HashJoin.Proofs.MatchLedger.Linking
import HashJoin.Proofs.SlotTable.Insertion

/-!
# The bytes of the parts

A budget is exact for a number of bytes if that is what is reserved, if it has never given back more
than was reserved, and if nothing was left over to be given back at the end. Every operation of a
table, a ledger or a store takes a budget that is exact for what the part and the others hold to one
that is exact again, whether the operation is granted or refused.

## Main definitions

* `Budget.Exact` — what is reserved, and that nothing went astray.
* `SlotTable.Accounted` — the bytes of a table are those of its buckets and its entries.

## Main results

* `exact_makeRoom`, `exact_insert` — doublings and insertions, partial failures included.
* `exact_link`, `exact_absorb` — links and batches.
* `exact_clear` — the three parts give back all that they hold.
-/

namespace HashJoin

/-! ### Budgets -/

/-- The budget has `bytes` reserved under the limit, and every release so far was matched. -/
structure Budget.Exact (b : Budget) (limit bytes : Nat) : Prop where
  /-- What is reserved. -/
  reserved : b.reserved = bytes
  /-- The limit. -/
  limit : b.limit = limit
  /-- The peak is no less than what is reserved. -/
  le_peak : b.reserved ≤ b.peak
  /-- The peak is within the limit. -/
  peak_le : b.peak ≤ b.limit
  /-- Nothing was given back that had not been reserved. -/
  overdrawn : b.overdrawn = 0
  /-- Nothing was left to be given back at once. -/
  leaked : b.leaked = 0

namespace Budget.Exact

variable {b granted : Budget} {limit bytes more : Nat}

theorem ofLimit (limit : Nat) : (Budget.ofLimit limit).Exact limit 0 :=
  ⟨rfl, rfl, Nat.le_refl _, Nat.zero_le _, rfl, rfl⟩

theorem reserve (h : b.Exact limit bytes) (hres : b.reserve more = .ok granted) :
    granted.Exact limit (bytes + more) := by
  obtain ⟨hfits, rfl⟩ := reserve_eq_ok_iff.mp hres
  have := h.le_peak
  have := h.peak_le
  have := h.reserved
  refine ⟨by simp [h.reserved], h.limit, Nat.le_max_right _ _, ?_, h.overdrawn, h.leaked⟩
  show max b.peak (b.reserved + more) ≤ b.limit
  omega

/-- Bytes that are reserved are given back without a loss. -/
theorem release (h : b.Exact limit (bytes + more)) : (b.release more).Exact limit bytes := by
  have hres := h.reserved
  have := h.le_peak
  refine ⟨?_, h.limit, ?_, h.peak_le, ?_, h.leaked⟩
  · rw [reserved_release]
    omega
  · rw [reserved_release, peak_release]
    omega
  · show b.overdrawn + (more - b.reserved) = 0
    rw [h.overdrawn]
    omega

/-- With nothing reserved, giving back everything gives back nothing. -/
theorem releaseAll (h : b.Exact limit 0) : b.releaseAll.1 = 0 ∧ b.releaseAll.2.Exact limit 0 := by
  refine ⟨h.reserved, rfl, h.limit, Nat.zero_le _, h.peak_le, h.overdrawn, ?_⟩
  show b.leaked + b.reserved = 0
  rw [h.leaked, h.reserved]

end Budget.Exact

/-! ### The table -/

namespace SlotTable

/-- The bytes of a table are those of its buckets and of the entries that it has room for. -/
def Accounted (t : SlotTable) : Prop :=
  t.reservedBytes = bucketBytes * t.buckets + entryBytes * t.arenaCapacity

variable {t t' : SlotTable} {hash : UInt32} {budget budget' : Budget} {limit rest : Nat}

/-- One doubling: the new buckets are reserved while the old ones are still held. -/
theorem exact_doubled (hacc : t.Accounted) (hpos : 0 < t.buckets)
    (h : budget.Exact limit (rest + t.reservedBytes))
    (hres : reserveBuckets (2 * t.buckets) budget = .ok budget') :
    t.doubled.Accounted ∧
      (budget'.release (bucketBytes * t.buckets)).Exact limit (rest + t.doubled.reservedBytes) := by
  -- the old buckets are part of what the table holds, so their release is matched
  have hheld : bucketBytes * t.buckets ≤ t.reservedBytes := by rw [hacc]; omega
  have hgranted := h.reserve (reserve_of_reserveBuckets hres)
  have hbytes : t.doubled.reservedBytes =
      t.reservedBytes - bucketBytes * t.buckets + bucketBytes * (2 * t.buckets) := rfl
  refine ⟨?_, Budget.Exact.release ?_⟩
  · rw [Accounted, buckets_doubled hpos, hbytes, hacc]
    show _ = _ + entryBytes * t.arenaCapacity
    omega
  · have : rest + t.reservedBytes + bucketBytes * (2 * t.buckets) =
        rest + t.doubled.reservedBytes + bucketBytes * t.buckets := by omega
    rw [← this]
    exact hgranted

theorem exact_makeRoom (hacc : t.Accounted)
    (h : budget.Exact limit (rest + t.reservedBytes)) :
    (t.makeRoom budget).2.1.Accounted ∧
      (t.makeRoom budget).2.2.Exact limit (rest + (t.makeRoom budget).2.1.reservedBytes) := by
  fun_induction t.makeRoom budget with
  | case1 => exact ⟨hacc, h⟩
  | case2 => exact ⟨hacc, h⟩
  | case3 t budget hpos _ granted hres _ ih =>
    -- the account holds after one doubling, and so after those that follow
    obtain ⟨hacc', h'⟩ := exact_doubled hacc (Nat.pos_of_ne_zero hpos) h hres
    exact ih hacc' h'
  | case4 => exact ⟨hacc, h⟩

theorem exact_extendArena (hacc : t.Accounted) (h : budget.Exact limit (rest + t.reservedBytes))
    {result : Except TableError Unit} (hext : t.extendArena budget = (result, t', budget')) :
    t'.Accounted ∧ budget'.Exact limit (rest + t'.reservedBytes) := by
  rcases extendArena_cases hext with ⟨-, -, rfl, rfl⟩ | ⟨-, rfl, rfl, -⟩ | ⟨-, -, hres, rfl⟩
  · exact ⟨hacc, h⟩
  · exact ⟨hacc, h⟩
  · refine ⟨?_, ?_⟩
    · show t.reservedBytes + _ = bucketBytes * t.buckets + entryBytes * (_ + _)
      rw [hacc, Nat.mul_add]
      omega
    · show budget'.Exact limit (rest + (t.reservedBytes + _))
      rw [← Nat.add_assoc]
      exact h.reserve hres

theorem accounted_append (h : t.Accounted) (hash : UInt32) : (t.append hash).Accounted := by
  rw [Accounted, buckets_append]
  exact h

/-- An insertion keeps the account, also when it is refused after some doublings. -/
theorem exact_insert (hacc : t.Accounted) (h : budget.Exact limit (rest + t.reservedBytes))
    {result : Except TableError Nat} (hins : t.insert hash budget = (result, t', budget')) :
    t'.Accounted ∧ budget'.Exact limit (rest + t'.reservedBytes) := by
  have hroom := exact_makeRoom hacc h
  rcases insert_cases hins with ⟨-, rfl, rfl, rfl⟩ | ⟨-, e, hmade, rfl⟩ |
    ⟨-, roomy, granted, hmade, e, hext, rfl⟩ | ⟨-, roomy, granted, hmade, ready, hext, rfl, rfl⟩
  · exact ⟨hacc, h⟩
  · rw [hmade] at hroom
    exact hroom
  · rw [hmade] at hroom
    exact exact_extendArena hroom.1 hroom.2 hext
  · rw [hmade] at hroom
    obtain ⟨hacc', h'⟩ := exact_extendArena hroom.1 hroom.2 hext
    exact ⟨accounted_append hacc' hash, h'⟩

theorem exact_create {minBuckets : Nat} {loadFactor : Binary64} (h : budget.Exact limit rest)
    (hnew : create minBuckets loadFactor budget = .ok (t, budget')) :
    t.Accounted ∧ budget'.Exact limit (rest + t.reservedBytes) := by
  obtain ⟨hres, rfl⟩ := create_eq_ok hnew
  refine ⟨?_, h.reserve (reserve_of_reserveBuckets hres)⟩
  simp [Accounted, buckets, Chains.empty]

end SlotTable

/-! ### The ledger and the store -/

section Parts

variable {budget budget' : Budget} {limit rest : Nat}

theorem MatchLedger.exact_link {l l' : MatchLedger} {slot : Nat} {ref : RowRef}
    (h : budget.Exact limit (rest + l.reservedBytes)) {result : Except JoinError Unit}
    (hlink : l.link slot ref budget = (result, l', budget')) :
    budget'.Exact limit (rest + l'.reservedBytes) := by
  rcases link_cases hlink with ⟨-, -, rfl, rfl⟩ | ⟨-, -, rfl, rfl, -⟩ | ⟨-, -, -, rfl, rfl⟩ |
    ⟨-, -, -, rfl, hres⟩
  · exact h
  · exact h
  · exact h
  · rw [reservedBytes_append]
    show budget'.Exact limit (rest + (l.reservedBytes + _))
    rw [← Nat.add_assoc]
    exact h.reserve hres

theorem BuildStore.exact_absorb {s s' : BuildStore} {batch : Batch} {index : Nat}
    (h : budget.Exact limit (rest + s.reservedBytes))
    (habs : s.absorb batch budget = .ok (index, s', budget')) :
    budget'.Exact limit (rest + s'.reservedBytes) := by
  obtain ⟨-, -, hres, -, rfl⟩ := absorb_eq_ok_iff.mp habs
  show budget'.Exact limit (rest + (s.reservedBytes + _))
  rw [← Nat.add_assoc]
  exact h.reserve hres

end Parts

/-! ### The end -/

/-- The three parts give back all that they hold, so that nothing is left to be given back at once. -/
theorem BuildSide.exact_clear {s : BuildSide} {budget : Budget} {limit : Nat}
    (h : budget.Exact limit s.reservedBytes) :
    (s.clear budget).1.reservedBytes = 0 ∧ (s.clear budget).2.Exact limit 0 := by
  obtain ⟨table, ledger, store⟩ := s
  refine ⟨rfl, ?_⟩
  -- the parts give back in turn what each of them holds, the table first if there is one
  cases table with
  | none =>
    have h' : budget.Exact limit (0 + store.reservedBytes + ledger.reservedBytes) := by
      rw [Nat.zero_add, Nat.add_comm]
      simpa [reservedBytes] using h
    exact h'.release.release
  | some table =>
    have h' : budget.Exact limit
        (0 + store.reservedBytes + ledger.reservedBytes + table.reservedBytes) := by
      have : reservedBytes ⟨some table, ledger, store⟩ =
          0 + store.reservedBytes + ledger.reservedBytes + table.reservedBytes := by
        simp only [reservedBytes, Option.map_some, Option.getD_some]
        omega
      rw [← this]
      exact h
    exact h'.release.release.release

end HashJoin
