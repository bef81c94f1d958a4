import HashJoin.Proofs.SlotTable.Lookup

/-!
# Histories of insertions

A table is filled by insertions, each against a budget of its own. Some are refused, at the first
doubling, at a later one or at the room for entries, and the doublings that went through before
stay. What can be looked up depends on the granted insertions alone.

## Main definitions

* `SlotTable.insertEach` — insertions one after the other, with their outcomes.
* `SlotTable.grants` — the hashes and the slots of those that were granted.

## Main results

* `insert_of_holds` — a granted insertion adds its hash, and a refused one adds nothing.
* `indexes_insertEach` — **after any history the table indexes the granted hashes.**
-/

namespace HashJoin
namespace SlotTable

open Chains

variable {t t' : SlotTable} {hs : List UInt32} {hash : UInt32} {budget budget' : Budget}

/-! ### What an insertion does -/

/-- Room for entries is there, is refused, or is added. -/
theorem extendArena_cases {result : Except TableError Unit}
    (h : t.extendArena budget = (result, t', budget')) :
    (t.length < t.arenaCapacity ∧ result = .ok () ∧ t' = t ∧ budget' = budget) ∨
      (t.arenaCapacity ≤ t.length ∧ t' = t ∧ budget' = budget ∧ ∃ refusal,
        budget.reserve (entryBytes * max t.arenaCapacity minArenaStep) = .error refusal ∧
          result = .error (.retryAfterSpill refusal)) ∨
      (t.arenaCapacity ≤ t.length ∧ result = .ok () ∧
        budget.reserve (entryBytes * max t.arenaCapacity minArenaStep) = .ok budget' ∧
        t' = { t with
          arenaCapacity := t.arenaCapacity + max t.arenaCapacity minArenaStep
          reservedBytes := t.reservedBytes + entryBytes * max t.arenaCapacity minArenaStep }) := by
  simp only [extendArena] at h
  split at h
  · next hlt =>
    cases h
    exact .inl ⟨hlt, rfl, rfl, rfl⟩
  · next hge =>
    have hge := Nat.le_of_not_lt hge
    split at h
    · next refusal hres =>
      cases h
      exact .inr (.inl ⟨hge, rfl, rfl, refusal, hres, rfl⟩)
    · next granted hres =>
      cases h
      exact .inr (.inr ⟨hge, rfl, hres, rfl⟩)

/-- An insertion finds all slots taken, or is refused the buckets, or the entries, or goes through. -/
theorem insert_cases {result : Except TableError Nat}
    (h : t.insert hash budget = (result, t', budget')) :
    (maxSlots ≤ t.length ∧ result = .error (.slotsExhausted t.length) ∧ t' = t ∧
        budget' = budget) ∨
      (t.length < maxSlots ∧ ∃ e, t.makeRoom budget = (.error e, t', budget') ∧
        result = .error e) ∨
      (t.length < maxSlots ∧ ∃ roomy granted, t.makeRoom budget = (.ok (), roomy, granted) ∧
        ∃ e, roomy.extendArena granted = (.error e, t', budget') ∧ result = .error e) ∨
      (t.length < maxSlots ∧ ∃ roomy granted, t.makeRoom budget = (.ok (), roomy, granted) ∧
        ∃ ready, roomy.extendArena granted = (.ok (), ready, budget') ∧ result = .ok t.length ∧
          t' = ready.append hash) := by
  simp only [insert] at h
  split at h
  · next hfull =>
    cases h
    exact .inl ⟨hfull, rfl, rfl, rfl⟩
  · next hfree =>
    have hfree := Nat.lt_of_not_le hfree
    split at h
    · next e _ _ hroom =>
      cases h
      exact .inr (.inl ⟨hfree, e, hroom, rfl⟩)
    · next roomy granted hroom =>
      split at h
      · next e _ _ hext =>
        cases h
        exact .inr (.inr (.inl ⟨hfree, roomy, granted, hroom, e, hext, rfl⟩))
      · next ready _ hext =>
        cases h
        exact .inr (.inr (.inr ⟨hfree, roomy, granted, hroom, ready, hext, rfl, rfl⟩))

/-! ### What a table holds -/

/-- A new table has no slots, and as many buckets as were reserved. -/
theorem create_eq_ok {minBuckets : Nat} {loadFactor : Binary64}
    (h : create minBuckets loadFactor budget = .ok (t, budget')) :
    reserveBuckets (max minBuckets 1).nextPowerOfTwo budget = .ok budget' ∧
      t = ⟨.empty (max minBuckets 1).nextPowerOfTwo, loadFactor, 0, 0,
        bucketBytes * (max minBuckets 1).nextPowerOfTwo⟩ := by
  rw [create] at h
  cases hr : reserveBuckets (max minBuckets 1).nextPowerOfTwo budget with
  | error e =>
    rw [hr] at h
    cases h
  | ok granted =>
    rw [hr] at h
    cases h
    exact ⟨rfl, rfl⟩

theorem holds_create {minBuckets : Nat} {loadFactor : Binary64}
    (h : create minBuckets loadFactor budget = .ok (t, budget')) : t.Holds [] := by
  obtain ⟨-, rfl⟩ := create_eq_ok h
  refine ⟨linked_empty _, ?_⟩
  simpa [buckets, Chains.empty] using
    Nat.pos_of_isPowerOfTwo (Nat.isPowerOfTwo_nextPowerOfTwo (max minBuckets 1))

theorem buckets_doubled (h : 0 < t.buckets) : t.doubled.buckets = 2 * t.buckets :=
  (linked_rebucket rfl (Nat.mul_pos Nat.two_pos h)).1

@[simp] theorem buckets_append (t : SlotTable) (hash : UInt32) :
    (t.append hash).buckets = t.buckets := by
  obtain ⟨⟨heads, tails, entries⟩, _⟩ := t
  exact size_heads_attach _ _ _

theorem holds_doubled (h : t.Holds hs) : t.doubled.Holds hs := by
  have hpos : 0 < 2 * t.buckets := Nat.mul_pos Nat.two_pos h.pos
  exact ⟨(linked_rebucket h.linked.hashes hpos).2, by rw [buckets_doubled h.pos]; exact hpos⟩

/-- Doublings keep the slots, also those that go through before one is refused. -/
theorem holds_makeRoom (h : t.Holds hs) (budget : Budget) : (t.makeRoom budget).2.1.Holds hs := by
  fun_induction t.makeRoom budget with
  | case1 => exact h
  | case2 => exact h
  -- the doubling stays, whatever becomes of those after it
  | case3 _ _ _ _ _ _ _ ih => exact ih (holds_doubled h)
  | case4 => exact h

theorem holds_extendArena (h : t.Holds hs) {result : Except TableError Unit}
    (hext : t.extendArena budget = (result, t', budget')) : t'.Holds hs := by
  rcases extendArena_cases hext with ⟨-, -, rfl, -⟩ | ⟨-, rfl, -⟩ | ⟨-, -, -, rfl⟩
  · exact h
  · exact h
  · exact ⟨h.linked, h.pos⟩

theorem holds_append (h : t.Holds hs) (hash : UInt32) : (t.append hash).Holds (hs ++ [hash]) := by
  exact ⟨linked_append h.linked h.pos hash, by rw [buckets_append]; exact h.pos⟩

/-- A granted insertion adds its hash under the next slot, and a refused one adds nothing. -/
theorem insert_of_holds (h : t.Holds hs) {result : Except TableError Nat}
    (hins : t.insert hash budget = (result, t', budget')) :
    (∃ e, result = .error e ∧ t'.Holds hs) ∨
      result = .ok hs.length ∧ t'.Holds (hs ++ [hash]) := by
  have hroom := holds_makeRoom h budget
  rcases insert_cases hins with ⟨-, rfl, rfl, -⟩ | ⟨-, e, hmade, rfl⟩ |
    ⟨-, roomy, granted, hmade, e, hext, rfl⟩ | ⟨-, roomy, granted, hmade, ready, hext, rfl, rfl⟩
  · exact .inl ⟨_, rfl, h⟩
  · rw [hmade] at hroom
    exact .inl ⟨e, rfl, hroom⟩
  · rw [hmade] at hroom
    exact .inl ⟨e, rfl, holds_extendArena hroom hext⟩
  · rw [hmade] at hroom
    exact .inr ⟨by rw [length_of_holds h], holds_append (holds_extendArena hroom hext) hash⟩

/-! ### Refusals -/

theorem reserveBuckets_eq_error {n : Nat} {e : TableError}
    (h : reserveBuckets n budget = .error e) : ∃ refusal, e = .retryAfterSpill refusal := by
  unfold reserveBuckets at h
  split at h
  · split at h
    · cases h
    · next refusal _ =>
      cases h
      exact ⟨refusal, rfl⟩
  · cases h
    exact ⟨_, rfl⟩

theorem makeRoom_eq_error {e : TableError} (h : t.makeRoom budget = (.error e, t', budget')) :
    ∃ refusal, e = .retryAfterSpill refusal := by
  fun_induction t.makeRoom budget with
  | case1 => cases h
  | case2 _ _ _ _ _ hres =>
    cases h
    exact reserveBuckets_eq_error hres
  | case3 _ _ _ _ _ _ _ ih => exact ih h
  | case4 => cases h

/-- An insertion finds a free slot, or is refused. -/
theorem lt_of_insert {slot : Nat} (h : t.insert hash budget = (.ok slot, t', budget')) :
    t.length < maxSlots := by
  rcases insert_cases h with ⟨-, heq, -⟩ | ⟨hslots, -⟩ | ⟨hslots, -⟩ | ⟨hslots, -⟩
  · cases heq
  · exact hslots
  · exact hslots
  · exact hslots

/-- An insertion that finds a free slot is refused only for want of memory. -/
theorem refusal_of_insert {e : TableError} (hslots : t.length < maxSlots)
    (h : t.insert hash budget = (.error e, t', budget')) : ∃ refusal, e = .retryAfterSpill refusal := by
  rcases insert_cases h with ⟨hfull, -⟩ | ⟨-, e', hmade, heq⟩ |
    ⟨-, roomy, granted, -, e', hext, heq⟩ | ⟨-, _, _, -, _, -, heq, -⟩
  · omega
  · cases heq
    exact makeRoom_eq_error hmade
  · cases heq
    rcases extendArena_cases hext with ⟨-, hok, -⟩ | ⟨-, -, -, refusal, -, hno⟩ | ⟨-, hok, -⟩
    · cases hok
    · cases hno
      exact ⟨refusal, rfl⟩
    · cases hok
  · cases heq

/-- A table is not created only for want of memory. -/
theorem refusal_of_create {minBuckets : Nat} {loadFactor : Binary64} {e : TableError}
    (h : create minBuckets loadFactor budget = .error e) : ∃ refusal, e = .retryAfterSpill refusal := by
  rw [create] at h
  cases hres : reserveBuckets (max minBuckets 1).nextPowerOfTwo budget with
  | error e' =>
    rw [hres] at h
    cases h
    exact reserveBuckets_eq_error hres
  | ok granted =>
    rw [hres] at h
    cases h

/-! ### Histories -/

/-- Insertions one after the other, each against a budget of its own: every hash with what came of
it, and the table behind them. -/
def insertEach (t : SlotTable) :
    List (UInt32 × Budget) → List (UInt32 × Except TableError Nat) × SlotTable
  | [] => ([], t)
  | (hash, budget) :: calls =>
    match t.insert hash budget with
    | (result, t, _) =>
      let (outcomes, t) := t.insertEach calls
      ((hash, result) :: outcomes, t)

/-- The hashes and the slots of the granted insertions. -/
def grants (outcomes : List (UInt32 × Except TableError Nat)) : List (UInt32 × Nat) :=
  outcomes.filterMap fun (hash, result) => result.toOption.map (hash, ·)

theorem fst_insertEach (t : SlotTable) (calls : List (UInt32 × Budget)) :
    (t.insertEach calls).1.map Prod.fst = calls.map Prod.fst := by
  induction calls generalizing t with
  | nil => rfl
  | cons call calls ih =>
    obtain ⟨hash, budget⟩ := call
    rw [insertEach, List.map_cons, List.map_cons, ih]

/-- Granted insertions are numbered in order, whatever is refused between them. -/
theorem insertEach_of_holds (h : t.Holds hs) (calls : List (UInt32 × Budget)) :
    ∃ more, (grants (t.insertEach calls).1) = more.zipIdx hs.length ∧
      (t.insertEach calls).2.Holds (hs ++ more) := by
  -- on the calls, for every table and the hashes that it holds
  induction calls generalizing t hs with
  | nil => exact ⟨[], rfl, by rw [List.append_nil]; exact h⟩
  | cons call calls ih =>
    obtain ⟨hash, budget⟩ := call
    rw [insertEach]
    rcases hins : t.insert hash budget with ⟨result, t', budget'⟩
    rcases insert_of_holds h hins with ⟨e, rfl, hkept⟩ | ⟨rfl, hadded⟩
    · exact ih hkept
    · obtain ⟨more, hslots, hall⟩ := ih hadded
      refine ⟨hash :: more, ?_, ?_⟩
      · rw [List.zipIdx_cons, ← List.length_singleton (a := hash), ← List.length_append, ← hslots]
        rfl
      · rw [List.append_cons]
        exact hall

/-- **After any history the table indexes the granted hashes.** They have the slots `0, 1, 2, …` in
order of insertion. Another insertion that is refused, after however many doublings, leaves all
lookups as they are, and if it is tried again and granted, it has the slot that it would have had. -/
theorem indexes_insertEach {minBuckets : Nat} {loadFactor : Binary64}
    (h : create minBuckets loadFactor budget = .ok (t, budget'))
    (calls : List (UInt32 × Budget)) :
    let outcomes := (t.insertEach calls).1
    let filled := (t.insertEach calls).2
    let hs := (grants outcomes).map Prod.fst
    outcomes.map Prod.fst = calls.map Prod.fst ∧
      (grants outcomes).map Prod.snd = List.range hs.length ∧ filled.Indexes hs ∧
      ∀ hash tight e refused left, filled.insert hash tight = (.error e, refused, left) →
        refused.Indexes hs ∧
          ∀ ample slot retried rest, refused.insert hash ample = (.ok slot, retried, rest) →
            slot = hs.length ∧ retried.Indexes (hs ++ [hash]) := by
  intro outcomes filled hs
  obtain ⟨more, hslots, hholds⟩ := insertEach_of_holds (holds_create h) calls
  have hmore : hs = more := by
    show (grants outcomes).map Prod.fst = more
    rw [hslots, List.zipIdx_map_fst]
  rw [List.nil_append, ← hmore] at hholds
  refine ⟨fst_insertEach t calls, ?_, indexes_of_holds hholds, ?_⟩
  · rw [hslots, List.zipIdx_map_snd, hmore, List.range_eq_range']
    rfl
  · intro hash tight e refused left hins
    have hkept : refused.Holds hs := by
      rcases insert_of_holds hholds hins with ⟨_, -, hkept⟩ | ⟨hok, -⟩
      · exact hkept
      · cases hok
    refine ⟨indexes_of_holds hkept, ?_⟩
    intro ample slot retried rest hretry
    rcases insert_of_holds hkept hretry with ⟨_, herr, -⟩ | ⟨hok, hadded⟩
    · cases herr
    · cases hok
      exact ⟨rfl, indexes_of_holds hadded⟩

/-- Four insertions into one bucket at a load factor of a quarter. The first of them doubles the
buckets once and is refused the second doubling; when it is tried again it has slot `0`. -/
theorem indexes_insertEach_refused :
    let loadFactor : Binary64 := .ofQuotient false 1 4
    let t : SlotTable := ⟨.empty 1, loadFactor, 0, 0, 8⟩
    let calls : List (UInt32 × Budget) :=
      [(7, .ofLimit 20), (7, .ofLimit 10000), (5, .ofLimit 10000), (7, .ofLimit 10000)]
    create 1 loadFactor (.ofLimit 10) = .ok (t, ⟨10, 8, 8, 0, 0⟩) ∧
      grants (t.insertEach calls).1 = [(7, 0), (5, 1), (7, 2)] ∧
      (t.insertEach calls).2.Indexes [7, 5, 7] := by
  intro loadFactor t calls
  have hsize : (max 1 1).nextPowerOfTwo = 1 := by decide +kernel
  have hcreate : create 1 loadFactor (.ofLimit 10) = .ok (t, ⟨10, 8, 8, 0, 0⟩) := by
    rw [create, hsize]
    rfl
  have hgrants : grants (t.insertEach calls).1 = [(7, 0), (5, 1), (7, 2)] := by decide +kernel
  have hindexes := (indexes_insertEach hcreate calls).2.2.1
  rw [hgrants] at hindexes
  exact ⟨hcreate, hgrants, hindexes⟩

end SlotTable
end HashJoin
